import DiveSchool.Proofs.Schema
import DiveSchool.Settings.Load
import Mathlib.Data.List.Infix

/-!
# `DiveSchool.Proofs.Layers` — which source decides a setting

The sources of settings are a base file, an overlay and variables. As long as sections are given tables and
settings are not, each setting is decided on its own: by the highest source that writes it, or by its default
if none does. What the other sources say about it, and what any source says about anything else, is without
effect.

## Contents
- **Layers.** `Layer.Placed`; `Layer.given`, what a layer gives a setting; `winning`, what the highest does.
- **Variables.** `given_ofVariables`: a variable with the name of a setting gives it its value.
- **Sources.** `Holds`, the layer in a file; `Sourced`, what all sources hold.
- **Loading.** `Sourced.load_eq_ok_iff`, `Sourced.load_eq_error_iff` and `load_alone`;
  `highest_source_decides`.
-/

namespace DiveSchool

open Settings

/-! ## Layers -/

/-- On the way to a setting there are only sections. -/
theorem Setting.way (x : Setting) {q : List String} (h : q <+: x.path) (hne : q ≠ x.path) :
    q = [] ∨ q ∈ sections := by
  have hall : ∀ q ∈ x.path.inits, q ≠ x.path → q = [] ∨ q ∈ sections := by cases x <;> decide
  exact hall q ((List.mem_inits _ _).mpr h) hne

namespace Settings

/-- On the way to a section there are only sections. -/
theorem sections_way {p q : List String} (hp : p ∈ sections) (h : q <+: p) (hne : q ≠ p) :
    q = [] ∨ q ∈ sections := by
  have hall : ∀ p ∈ sections, ∀ q ∈ p.inits, q ≠ p → q = [] ∨ q ∈ sections := by decide
  exact hall p hp q ((List.mem_inits _ _).mpr h) hne

/-- Every key starts with a name. -/
theorem exists_keyPath_eq (key : String) : ∃ name steps, keyPath key = .name name :: steps := by
  unfold keyPath
  cases h : keyPath? key.toList with
  | none => exact ⟨key, [], rfl⟩
  | some path =>
      simp only [keyPath?, Option.bind_eq_bind, Option.bind_eq_some_iff, Option.pure_def, Option.some.injEq] at h
      obtain ⟨⟨name, rest⟩, -, steps, -, rfl⟩ := h
      exact ⟨name, steps, rfl⟩

namespace Layer

variable {L : Layer}

/-- Whether a layer gives sections only tables, and settings none. -/
structure Placed (L : Layer) : Prop where
  sections : ∀ p ∈ Settings.sections, ∀ v ∈ L.written p, v.IsTable
  settings : ∀ x : Setting, ∀ v ∈ L.written x.path, ¬v.IsTable

/-- What a layer gives a setting: the last value that it writes there. -/
def given (L : Layer) (x : Setting) : Option Value := (L.written x.path).getLast?

/-- A layer as a whole is a table. -/
theorem isTable_of_mem_written_nil {w : Value} (h : w ∈ L.written []) : w.IsTable := by
  obtain ⟨entry, -, hw⟩ := List.mem_flatMap.mp h
  obtain ⟨name, steps, hkey⟩ := exists_keyPath_eq entry.1
  rw [hkey] at hw
  rw [List.mem_singleton.mp hw]
  exact ⟨_, rfl⟩

theorem Placed.leads (h : L.Placed) {p : List String}
    (hway : ∀ q, q <+: p → q ≠ p → q = [] ∨ q ∈ Settings.sections) : L.Leads p := by
  intro entry hentry
  refine Value.leads_of_prefixes fun q hq hne w hw => ?_
  have hmem : w ∈ L.written q := List.mem_flatMap.mpr ⟨entry, hentry, hw⟩
  rcases hway q hq hne with rfl | hsection
  · exact isTable_of_mem_written_nil hmem
  · exact h.sections q hsection w hmem

theorem leads_nil (L : Layer) : L.Leads [] := fun _ _ => trivial

end Layer

/-- What the highest of three layers gives a setting. -/
def winning (base overlay vars : Layer) (x : Setting) : Option Value :=
  (vars.given x).or ((overlay.given x).or (base.given x))

section Stack

variable {layers : List Layer}

/-- A stack of layers is a table in which sections are tables. -/
theorem sectioned_stack (h : ∀ L ∈ layers, L.Placed) : (stack layers).Sectioned := by
  -- at the root and at a section nothing but tables are laid over one another
  have htable {p : List String} (hleads : ∀ L ∈ layers, L.Leads p)
      (hwritten : ∀ L ∈ layers, ∀ w ∈ L.written p, w.IsTable)
      (hp : ∀ v, (Value.table []).find? p = some v → v.IsTable) :
      ∀ w, (stack layers).find? p = some w → w.IsTable := by
    intro w hw
    have hlike := find?_stack hleads
    have hlaid := Value.isTable_of_laid (List.forall_mem_flatMap.mpr hwritten) hp
    rw [hw] at hlike
    generalize Value.laid _ _ = o at hlike hlaid
    cases hlike with
    | @some _ v hwv => exact hwv.isTable (hlaid v rfl)
  refine ⟨?_, fun p hp => ?_⟩
  · refine htable (fun L _ => L.leads_nil) (fun L _ w hw => Layer.isTable_of_mem_written_nil hw) ?_ _ rfl
    rintro v hv
    cases hv
    exact ⟨_, rfl⟩
  · refine htable (fun L hL => (h L hL).leads fun q => sections_way hp) (fun L hL => (h L hL).sections p hp) ?_
    have hne : ∀ p ∈ sections, p ≠ [] := by decide
    rw [Value.find?_empty (hne p hp)]
    intro v hv
    cases hv

/-- A setting takes from a stack what the last layer that gives it a value gives. -/
theorem taken_stack (h : ∀ L ∈ layers, L.Placed) (x : Setting) :
    x.taken ((stack layers).find? x.path) = x.taken (layers.flatMap (·.written x.path)).getLast? := by
  -- no table among them, so nothing of the lower layers is left
  have hplain : ∀ w ∈ layers.flatMap (·.written x.path), ¬w.IsTable :=
    List.forall_mem_flatMap.mpr fun L hL => (h L hL).settings x
  have hlike := find?_stack fun L hL => (h L hL).leads fun q => x.way
  have hne : x.path ≠ [] := by cases x <;> exact List.cons_ne_nil _ _
  rw [Value.laid_of_not_isTable hplain, Value.find?_empty hne, Option.or_none] at hlike
  exact Setting.taken_eq hlike fun v hv => hplain v (List.mem_of_getLast? hv)

end Stack

/-! ## Variables -/

/-- The variable with the name of a setting leads to the path of the setting. -/
theorem keyPath_variableName (x : Setting) :
    (variableKey? (variableName x.path)).map keyPath = some (x.path.map .name) := by
  cases x <;> decide +kernel

theorem Value.written_wrap (path : List String) (v : Value) : (v.wrap (path.map .name)).written path = [v] := by
  induction path with
  | nil => rfl
  | cons name path ih =>
      rw [List.map_cons, wrap, written, fieldList, filter_name_cons_self, List.filter_nil, List.flatMap_singleton,
        ih]

/-- **A variable with the name of a setting** gives the setting its value, if no other one does. -/
theorem given_ofVariables {vars : List (String × String)} {x : Setting}
    (honce : ((ofVariables vars).written x.path).length ≤ 1) {text : String}
    (hvar : (variableName x.path, text) ∈ vars) :
    (ofVariables vars).given x = some (variableValue text) := by
  obtain ⟨key, hkey, hpath⟩ := Option.map_eq_some_iff.mp (keyPath_variableName x)
  have hentry : (key, variableValue text) ∈ ofVariables vars :=
    List.mem_filterMap.mpr ⟨_, hvar, by simp only [hkey, Option.map_some]⟩
  have hmem : variableValue text ∈ (ofVariables vars).written x.path := by
    refine List.mem_flatMap.mpr ⟨_, hentry, ?_⟩
    rw [hpath, Value.written_wrap]
    exact List.mem_singleton_self _
  obtain ⟨v, hv⟩ := List.length_eq_one_iff.mp (Nat.le_antisymm honce (List.length_pos_of_mem hmem))
  rw [hv] at hmem
  rw [Layer.given, hv, List.mem_singleton.mp hmem]
  rfl

/-- Lists with the same members and at most one of them are the same. -/
theorem eq_of_perm_of_length_le_one {α : Type} {as bs : List α} (h : as.Perm bs) (hone : bs.length ≤ 1) :
    as = bs := by
  cases bs with
  | nil => exact List.perm_nil.mp h
  | cons b bs =>
      have hbs : bs = [] := List.eq_nil_of_length_eq_zero (by simpa using hone)
      subst hbs
      exact List.perm_singleton.mp h

/-! ## Sources -/

/-- What the file of a name holds: nothing if there is none, or else a document. -/
inductive Holds (files : Files) (name : String) : Layer → Prop
  | missing (h : files.find? name = none) : Holds files name []
  | document {text : String} {L : Layer} (h : files.find? name = some (.toml, text))
      (hparse : Toml.parse? text = some L) : Holds files name L

/-- What is in the file of a name. -/
def layerIn (files : Files) (name : String) : Layer :=
  ((files.find? name).bind fun file => Toml.parse? file.2).getD []

theorem Holds.layerIn {files : Files} {name : String}
    (h : (files.find? name).map (fun file => (file.1, (Toml.parse? file.2).isSome)) = some (.toml, true)) :
    Holds files name (layerIn files name) := by
  obtain ⟨⟨format, text⟩, hfile, heq⟩ := Option.map_eq_some_iff.mp h
  obtain ⟨rfl, hsome⟩ := Prod.mk.injEq .. ▸ heq
  obtain ⟨L, hL⟩ := Option.isSome_iff_exists.mp hsome
  refine .document hfile ?_
  rw [Settings.layerIn, hfile, Option.bind_some, hL, Option.getD_some]

/-- What all sources hold: each file is missing or a document, sections are given tables and settings none,
    and no setting is named by two variables. -/
structure Sourced (files : Files) (vars : List (String × String)) (path : String) (env : Option String)
    (base overlay : Layer) : Prop where
  atBase : Holds files path base
  atOverlay : match env with
    | some env => Holds files (overlayName path env) overlay
    | none => overlay = []
  placed : ∀ L ∈ [base, overlay, ofVariables vars], L.Placed
  once : ∀ x : Setting, ((ofVariables vars).written x.path).length ≤ 1

/-- No statement starts with a byte-order mark. -/
theorem statements_mark (fuel : Nat) (current : List String) (root : Toml.Children) (cs : List Char) :
    Toml.statements fuel current root ('\uFEFF' :: cs) = none := by
  cases fuel with
  | zero => rfl
  | succ fuel => rfl

/-- A document is the same without the mark at its start. -/
theorem parse?_dropMark {text : String} {L : Layer} (h : Toml.parse? text = some L) :
    Toml.parse? (dropMark text) = some L := by
  unfold dropMark
  split
  · next rest htext =>
      have hrest : Toml.dropMark rest = rest := by
        unfold Toml.dropMark
        split
        · -- a second mark would not be dropped from the whole text
          next more =>
            rw [Toml.parse?, htext, Toml.dropMark, statements_mark] at h
            cases h
        · rfl
      rw [Toml.parse?, htext] at h
      rwa [Toml.parse?, String.toList_ofList, hrest]
  · exact h

theorem Holds.fileLayer_eq {files : Files} {name : String} {L : Layer} (h : Holds files name L) :
    fileLayer files name = .ok L := by
  unfold fileLayer
  cases h with
  | missing h => rw [h]
  | document h hparse =>
      rw [h]
      simp only [Format.read?, parse?_dropMark hparse]

/-! ## Loading -/

section Loading

variable {files : Files} {vars : List (String × String)} {path : String} {env : Option String}
  {base overlay : Layer}

theorem Sourced.load_eq (h : Sourced files vars path env base overlay) :
    load files vars path env = ofStack [base, overlay, ofVariables vars] := by
  have hoverlay := h.atOverlay
  rw [load, h.atBase.fileLayer_eq]
  cases env with
  | none =>
      cases hoverlay
      rfl
  | some env =>
      dsimp only at hoverlay
      simp only [hoverlay.fileLayer_eq]
      rfl

theorem ofStack_eq_ok_iff {layers : List Layer} {s : Settings} :
    ofStack layers = .ok s ↔ Value.reading.settings (stack layers) = some s := by
  unfold ofStack
  cases Value.reading.settings (stack layers) <;> simp

theorem ofStack_eq_error_iff {layers : List Layer} {e : Failure} :
    ofStack layers = .error e ↔ e = notSettings ∧ Value.reading.settings (stack layers) = none := by
  unfold ofStack
  cases Value.reading.settings (stack layers) <;> simp [eq_comm]

/-- A setting takes from all layers what it takes from the highest one that writes it. -/
theorem Sourced.taken_eq (h : Sourced files vars path env base overlay) (x : Setting) :
    x.taken ((stack [base, overlay, ofVariables vars]).find? x.path) =
      x.taken (winning base overlay (ofVariables vars) x) := by
  rw [taken_stack h.placed x, winning, ← Option.or_assoc]
  simp only [List.flatMap_cons, List.flatMap_nil, List.append_nil, List.getLast?_append, Layer.given]

/-- What is loaded has in each setting the value that wins, and its default where there is none. -/
theorem Sourced.load_eq_ok_iff (h : Sourced files vars path env base overlay) (s : Settings) :
    load files vars path env = .ok s ↔ ∀ x : Setting, match winning base overlay (ofVariables vars) x with
      | some v => x.read v = some (x.field s)
      | none => x.field s = x.field {} := by
  rw [h.load_eq, ofStack_eq_ok_iff, Value.settings_eq_some_iff (sectioned_stack h.placed)]
  refine forall_congr' fun x => ?_
  rw [h.taken_eq]
  exact x.taken_eq_some_iff

/-- Loading fails if a value that wins is not acceptable, and for no other reason. -/
theorem Sourced.load_eq_error_iff (h : Sourced files vars path env base overlay) (e : Failure) :
    load files vars path env = .error e ↔ e = notSettings ∧
      ∃ x : Setting, ∃ v, winning base overlay (ofVariables vars) x = some v ∧ x.read v = none := by
  rw [h.load_eq, ofStack_eq_error_iff, Value.settings_eq_none_iff (sectioned_stack h.placed)]
  refine and_congr_right fun _ => exists_congr fun x => ?_
  rw [h.taken_eq]
  cases winning base overlay (ofVariables vars) x with
  | none => exact ⟨fun hx => (nomatch hx), fun ⟨v, hv, _⟩ => (nomatch hv)⟩
  | some v => exact ⟨fun hx => ⟨v, rfl, hx⟩, fun ⟨w, hw, hx⟩ => Option.some_inj.mp hw ▸ hx⟩

/-- A variable with the name of a setting wins. -/
theorem Sourced.winning_of_variable (h : Sourced files vars path env base overlay) (x : Setting) (text : String)
    (hvar : (variableName x.path, text) ∈ vars) :
    winning base overlay (ofVariables vars) x = some (variableValue text) := by
  rw [winning, given_ofVariables (h.once x) hvar, Option.some_or]

/-- The order of the variables makes no difference to what they write. -/
theorem Sourced.reordered (h : Sourced files vars path env base overlay) {others : List (String × String)}
    (hperm : others.Perm vars) :
    Sourced files others path env base overlay ∧
      ∀ x : Setting, (ofVariables others).written x.path = (ofVariables vars).written x.path := by
  -- what is written at a path is reordered like the variables, and at a setting it is one value at most
  have hwritten (p : List String) : ((ofVariables others).written p).Perm ((ofVariables vars).written p) :=
    (hperm.filterMap _).flatMap_right _
  have hsame (x : Setting) : (ofVariables others).written x.path = (ofVariables vars).written x.path :=
    eq_of_perm_of_length_le_one (hwritten x.path) (h.once x)
  have hplaced := h.placed
  simp only [List.forall_mem_cons, List.not_mem_nil, IsEmpty.forall_iff, implies_true, and_true] at hplaced
  obtain ⟨hbase, hoverlay, hvars⟩ := hplaced
  have hothers : (ofVariables others).Placed :=
    ⟨fun p hp v hv => hvars.sections p hp v ((hwritten p).mem_iff.mp hv),
      fun x v hv => hvars.settings x v (hsame x ▸ hv)⟩
  refine ⟨⟨h.atBase, h.atOverlay, ?_, fun x => hsame x ▸ h.once x⟩, hsame⟩
  simp only [List.forall_mem_cons, List.not_mem_nil, IsEmpty.forall_iff, implies_true, and_true]
  exact ⟨hbase, hoverlay, hothers⟩

/-- The order of the variables makes no difference to what is loaded. -/
theorem Sourced.load_reordered (h : Sourced files vars path env base overlay) (others : List (String × String))
    (hperm : others.Perm vars) : load files others path env = load files vars path env := by
  obtain ⟨hothers, hsame⟩ := h.reordered hperm
  have hwinning : winning base overlay (ofVariables others) = winning base overlay (ofVariables vars) :=
    funext fun x => by rw [winning, winning, Layer.given, hsame, ← Layer.given]
  cases hload : load files vars path env with
  | ok s =>
      rw [h.load_eq_ok_iff, ← hwinning] at hload
      exact (hothers.load_eq_ok_iff s).mpr hload
  | error e =>
      rw [h.load_eq_error_iff, ← hwinning] at hload
      exact (hothers.load_eq_error_iff e).mpr hload

/-- A document that is alone comes to what its text comes to. -/
theorem load_alone {text : String} (hfile : files.find? path = some (.toml, text))
    (hparse : Toml.parse? text ≠ none)
    (hoverlay : ∀ e, env = some e → files.find? (overlayName path e) = none) (hvars : ofVariables vars = []) :
    load files vars path env = ofToml text := by
  obtain ⟨L, hL⟩ := Option.ne_none_iff_exists'.mp hparse
  have hbase : fileLayer files path = .ok L := (Holds.document hfile hL).fileLayer_eq
  rw [load, hbase, hvars, ofToml, hL]
  cases env with
  | none => rfl
  | some e =>
      have hmissing : fileLayer files (overlayName path e) = .ok [] := (Holds.missing (hoverlay e rfl)).fileLayer_eq
      simp only [hmissing]
      rfl

/-- **The highest source decides.** Each setting has the value that the highest source which writes it gives it,
    the variables above the overlay and the overlay above the base file, and its default if no source writes it.
    Loading fails exactly if one of these values is not acceptable for its setting; so nothing else in any source
    matters, nor does the order of the variables. A variable with the name of a setting is one that gives it a
    value. A base file without an overlay and without variables comes to what its text comes to. -/
theorem highest_source_decides (files : Files) (vars : List (String × String)) (path : String)
    (env : Option String) :
    (∀ base overlay, Sourced files vars path env base overlay →
      (∀ s, load files vars path env = .ok s ↔
        ∀ x : Setting, match winning base overlay (ofVariables vars) x with
          | some v => x.read v = some (x.field s)
          | none => x.field s = x.field {}) ∧
      (∀ e, load files vars path env = .error e ↔ e = notSettings ∧
        ∃ x : Setting, ∃ v, winning base overlay (ofVariables vars) x = some v ∧ x.read v = none) ∧
      (∀ x : Setting, ∀ text, (variableName x.path, text) ∈ vars →
        winning base overlay (ofVariables vars) x = some (variableValue text)) ∧
      ∀ others : List (String × String), others.Perm vars →
        load files others path env = load files vars path env) ∧
    ∀ text, files.find? path = some (.toml, text) → Toml.parse? text ≠ none →
      (∀ e, env = some e → files.find? (overlayName path e) = none) → ofVariables vars = [] →
      load files vars path env = ofToml text :=
  ⟨fun _ _ h => ⟨h.load_eq_ok_iff, h.load_eq_error_iff, h.winning_of_variable, h.load_reordered⟩,
    fun _ => load_alone⟩

end Loading

/-- A base file and an overlay in one directory. The base has no number where one is asked for. -/
def twoFiles : Files :=
  [("conf/default.toml", "[database]\nurl = 'sea'\nmax_connections = 'many'\n"),
   ("conf/test.toml", "[database]\nmax_connections = 7\n")]

/-- The overlay covers the text in place of a number and leaves the rest of the section alone, and a variable
    chooses the store. On its own the base file comes to what its text comes to, which is a failure. -/
theorem number_covers_text :
    load twoFiles [("OCEANDIVE__BOOKING__STORE", "postgres")] "conf/default" (some "test") =
      .ok { database := { url := "sea", maxConnections := 7 }, booking := { backend := .postgres } } ∧
    load twoFiles [] "conf/default" none = ofToml "[database]\nurl = 'sea'\nmax_connections = 'many'\n" := by
  have hsourced : Sourced twoFiles [("OCEANDIVE__BOOKING__STORE", "postgres")] "conf/default" (some "test")
      (layerIn twoFiles "conf/default") (layerIn twoFiles "conf/test") := by
    refine ⟨Holds.layerIn (by decide +kernel), Holds.layerIn (by decide +kernel), ?_, ?_⟩
    · simp only [List.forall_mem_cons, List.not_mem_nil, IsEmpty.forall_iff, implies_true, and_true]
      exact ⟨⟨by decide +kernel, by decide +kernel⟩, ⟨by decide +kernel, by decide +kernel⟩,
        by decide +kernel, by decide +kernel⟩
    · decide +kernel
  constructor
  · obtain ⟨hload, -, -, -⟩ := (highest_source_decides _ _ _ _).1 _ _ hsourced
    have htaken : ∀ x : Setting, x.taken (winning (layerIn twoFiles "conf/default") (layerIn twoFiles "conf/test")
          (ofVariables [("OCEANDIVE__BOOKING__STORE", "postgres")]) x) =
        some (x.field
          { database := { url := "sea", maxConnections := 7 }, booking := { backend := .postgres } }) := by
      decide +kernel
    exact (hload _).mpr fun x => x.taken_eq_some_iff.mp (htaken x)
  · obtain ⟨-, halone⟩ := highest_source_decides twoFiles [] "conf/default" none
    refine halone _ (by decide +kernel) ?_ ?_ rfl
    · exact Option.isSome_iff_ne_none.mp (by decide +kernel)
    · intro e he
      cases he

end Settings

end DiveSchool
