import DiveSchool.Settings.Layer
import DiveSchool.Proofs.Fields

/-!
# `DiveSchool.Proofs.Overlay` — what stands at a path after values were laid over one another

A source of settings writes values at the ends of paths. Laying it over other values changes what stands at
a path exactly by what the source writes there: each value it writes is laid over what stood there before,
and where it writes nothing, nothing changes. Only the way there has to lead through tables, as a value of
another kind on the way would wipe out what is below it.

## Contents
- **Paths.** `Value.find?`, what stands at a path; `Value.written`, what a value writes there.
- **Overlay.** `laid`, values laid on top of each other; `find?_overlay`. Tables become one table, and of other
  values the last one counts.
- **Likeness.** `Value.Alike`: two values are the same, or both are lists, or both are tables.
- **Keys.** `wrap`, what a key with its value writes; `find?_put`.
- **Layers.** `Layer.written`, what a layer writes at a path; `find?_stack`.
-/

namespace DiveSchool.Settings

/-! ## Paths -/

namespace Value

/-- The value at the end of a path of names. -/
def find? : List String → Value → Option Value
  | [], v => some v
  | name :: path, v => (v.field? name).bind (find? path)

/-- Every value that is written at the end of a path, in order. -/
def written : List String → Value → List Value
  | [], v => [v]
  | name :: path, v => (v.fieldList.filter (·.1 == name)).flatMap fun f => written path f.2

/-- Whether a value is a table. -/
def IsTable (v : Value) : Prop := ∃ fields, v = table fields

instance (v : Value) : Decidable v.IsTable :=
  match v with
  | .table fields => .isTrue ⟨fields, rfl⟩
  | .nothing | .truth _ | .whole _ | .real _ | .text _ | .list _ => .isFalse fun ⟨_, h⟩ => nomatch h

/-- Whether a value is a list. -/
def IsList (v : Value) : Prop := ∃ items, v = list items

/-- Whether only tables are written on the way to the end of a path. -/
def Leads : List String → Value → Prop
  | [], _ => True
  | name :: path, v => v.IsTable ∧ ∀ f ∈ v.fieldList, f.1 = name → Leads path f.2

variable {v base : Value} {path : List String} {n name : String} {fs : List (String × Value)}

theorem leads_of_prefixes (h : ∀ q, q <+: path → q ≠ path → ∀ w ∈ v.written q, w.IsTable) :
    v.Leads path := by
  induction path generalizing v with
  | nil => trivial
  | cons name path ih =>
      refine ⟨h [] List.nil_prefix (List.cons_ne_nil _ _).symm v List.mem_cons_self, fun f hf hname => ?_⟩
      refine ih fun q hq hne w hw => h (name :: q) ((List.prefix_cons_inj name).mpr hq) ?_ w ?_
      · exact fun heq => hne (List.cons_eq_cons.mp heq).2
      · exact List.mem_flatMap.mpr ⟨f, List.mem_filter.mpr ⟨hf, beq_iff_eq.mpr hname⟩, hw⟩

theorem find?_empty (hpath : path ≠ []) : (table []).find? path = none := by
  cases path with
  | nil => exact absurd rfl hpath
  | cons name path => rfl

theorem lookup_cons_eq (n name : String) (v : Value) (fs : List (String × Value)) :
    ((name, v) :: fs).lookup n = if n = name then some v else fs.lookup n := by
  by_cases h : n = name
  · subst h
    rw [List.lookup_cons_self, if_pos rfl]
  · simp only [List.lookup_cons, beq_false_of_ne h, if_neg h]

theorem lookup_setField (n name : String) (v : Value) (fs : List (String × Value)) :
    (setField name v fs).lookup n = if n = name then some v else fs.lookup n := by
  induction fs with
  | nil => exact lookup_cons_eq n name v []
  | cons f fs ih =>
      obtain ⟨other, old⟩ := f
      rw [setField]
      by_cases hother : other = name
      · subst hother
        rw [if_pos rfl, lookup_cons_eq, lookup_cons_eq]
        split <;> rfl
      · rw [if_neg hother, lookup_cons_eq, lookup_cons_eq, ih]
        by_cases h : n = other
        · rw [if_pos h, if_neg (h ▸ hother), if_pos h]
        · rw [if_neg h, if_neg h]

/-! ## Overlay -/

/-- Values laid on top of what stands at a place. -/
def laid (o : Option Value) (ws : List Value) : Option Value :=
  ws.foldl (fun o w => some ((o.getD nothing).overlay w)) o

theorem laid_append (o : Option Value) (us ws : List Value) : laid o (us ++ ws) = laid (laid o us) ws :=
  List.foldl_append

/-- A place where nothing stands is as good as one where there is nothing. -/
theorem laid_getD (o : Option Value) (u : Value) :
    laid ((o.getD nothing).find? path) (u.written path) = laid (o.bind (find? path)) (u.written path) := by
  cases o with
  | some v => rfl
  | none =>
      cases path with
      | nil => rfl
      | cons name path => rfl

/-- What stands at a path after an overlay. -/
theorem find?_overlay (h : v.Leads path) :
    (base.overlay v).find? path = laid (base.find? path) (v.written path) := by
  induction path generalizing v base with
  | nil => rfl
  | cons name path ih =>
      obtain ⟨⟨fs, rfl⟩, hfs⟩ := h
      -- the fields are laid on one after another, so the induction is for every base
      have hfields : ∀ bs, ((overlayFields bs fs).lookup name).bind (find? path) =
          laid ((bs.lookup name).bind (find? path)) ((fs.filter (·.1 == name)).flatMap (written path ·.2)) := by
        replace hfs : ∀ f ∈ fs, f.1 = name → f.2.Leads path := hfs
        induction fs with
        | nil => exact fun _ => rfl
        | cons f fs ihfs =>
            intro bs
            obtain ⟨other, u⟩ := f
            rw [overlayFields, ihfs (fun f hf => hfs f (List.mem_cons_of_mem _ hf)), lookup_setField]
            by_cases hname : name = other
            · subst hname
              rw [if_pos rfl, Option.bind_some, ih (hfs _ List.mem_cons_self rfl), laid_getD, ← laid_append,
                filter_name_cons_self, List.flatMap_cons]
            · rw [if_neg hname, filter_name_cons_ne (Ne.symm hname)]
      exact hfields base.fieldList

/-- Of values that are no tables the last one covers the others. -/
theorem laid_of_not_isTable {ws : List Value} (h : ∀ w ∈ ws, ¬w.IsTable) (o : Option Value) :
    laid o ws = ws.getLast?.or o := by
  induction ws generalizing o with
  | nil => rfl
  | cons w ws ih =>
      have hw : (o.getD nothing).overlay w = w := by
        cases w with
        | table fields => exact absurd ⟨fields, rfl⟩ (h _ List.mem_cons_self)
        | _ => rfl
      have hlaid : laid o (w :: ws) = laid (some w) ws := by rw [laid, List.foldl_cons, hw, ← laid]
      rw [hlaid, ih (fun u hu => h u (List.mem_cons_of_mem _ hu)), List.getLast?_cons]
      cases ws.getLast? <;> rfl

/-- Tables laid over a table, or over nothing, are a table. -/
theorem isTable_of_laid {ws : List Value} (h : ∀ w ∈ ws, w.IsTable) {o : Option Value}
    (ho : ∀ v, o = some v → v.IsTable) : ∀ v, laid o ws = some v → v.IsTable := by
  induction ws generalizing o with
  | nil => exact ho
  | cons w ws ih =>
      refine ih (fun u hu => h u (List.mem_cons_of_mem _ hu)) fun v hv => ?_
      obtain ⟨fields, rfl⟩ := h w List.mem_cons_self
      cases hv
      exact ⟨_, rfl⟩

/-! ## Likeness

A key may go through an index into a list. Paths consist of names only, so what happens to the items of a list
cannot be seen at the end of a path, but that there is a list can. -/

/-- Two values are the same, or both are lists, or both are tables. -/
def Alike (v w : Value) : Prop := v = w ∨ (v.IsList ∧ w.IsList) ∨ (v.IsTable ∧ w.IsTable)

theorem not_isTable_of_isList (h : v.IsList) : ¬v.IsTable := by
  obtain ⟨items, rfl⟩ := h
  rintro ⟨fields, hfields⟩
  cases hfields

theorem Alike.isTable {v w : Value} (h : v.Alike w) (hw : w.IsTable) : v.IsTable := by
  rcases h with rfl | ⟨-, hlist⟩ | ⟨hv, -⟩
  · exact hw
  · exact absurd hw (not_isTable_of_isList hlist)
  · exact hv

theorem Alike.trans {u v w : Value} (h : u.Alike v) (h' : v.Alike w) : u.Alike w := by
  rcases h with rfl | ⟨hu, hv⟩ | ⟨hu, hv⟩
  · exact h'
  · rcases h' with rfl | ⟨-, hw⟩ | ⟨hv', -⟩
    · exact .inr (.inl ⟨hu, hv⟩)
    · exact .inr (.inl ⟨hu, hw⟩)
    · exact absurd hv' (not_isTable_of_isList hv)
  · rcases h' with rfl | ⟨hv', -⟩ | ⟨-, hw⟩
    · exact .inr (.inr ⟨hu, hv⟩)
    · exact absurd hv (not_isTable_of_isList hv')
    · exact .inr (.inr ⟨hu, hw⟩)

/-- Nothing stands at either place, or like values. -/
def AlikeAt : Option Value → Option Value → Prop := Option.Rel Alike

theorem alikeAt_refl (o : Option Value) : AlikeAt o o := by
  cases o with
  | none => exact .none
  | some v => exact .some (.inl rfl)

theorem AlikeAt.trans {o o' o'' : Option Value} (h : AlikeAt o o') (h' : AlikeAt o' o'') : AlikeAt o o'' := by
  cases h with
  | none => exact h'
  | some hv =>
      cases h' with
      | some hw => exact .some (hv.trans hw)

/-- What is laid over like values is alike. -/
theorem AlikeAt.laid {o o' : Option Value} (h : AlikeAt o o') (ws : List Value) :
    AlikeAt (Value.laid o ws) (Value.laid o' ws) := by
  induction ws generalizing o o' with
  | nil => exact h
  | cons w ws ih =>
      refine ih ?_
      cases w with
      | table fields => exact .some (.inr (.inr ⟨⟨_, rfl⟩, ⟨_, rfl⟩⟩))
      | _ => exact alikeAt_refl _

/-! ## Keys -/

/-- A value with its key: the value at the end of the path of the key. -/
def wrap (v : Value) : List Step → Value
  | [] => v
  | .name name :: steps => table [(name, wrap v steps)]
  | .index index :: steps => list (changeAt (fun _ => wrap v steps) index [])

/-- What stands at a path after a value was put at the end of another one. -/
theorem find?_put {steps : List Step} (h : (v.wrap steps).Leads path) (base : Value) :
    AlikeAt ((put v steps base).find? path) (laid (base.find? path) ((v.wrap steps).written path)) := by
  induction steps generalizing path base with
  | nil =>
      rw [wrap] at h ⊢
      rw [put, find?_overlay h]
      exact alikeAt_refl _
  | cons step steps ih =>
      cases step with
      | name other =>
          cases path with
          | nil => exact .some (.inr (.inr ⟨⟨_, rfl⟩, ⟨_, rfl⟩⟩))
          | cons name path =>
              obtain ⟨-, hinner⟩ := h
              have hfind : (put v (.name other :: steps) base).find? (name :: path) =
                  ((setField other (put v steps ((base.field? other).getD nothing)) base.fieldList).lookup
                    name).bind (find? path) := rfl
              rw [hfind, lookup_setField]
              by_cases hname : name = other
              · subst hname
                have hwritten : written (name :: path) (v.wrap (.name name :: steps)) =
                    (v.wrap steps).written path := by
                  simp [written, wrap, fieldList]
                rw [if_pos rfl, Option.bind_some, hwritten, find?, ← laid_getD]
                exact ih (hinner _ List.mem_cons_self rfl) _
              · have hwritten : written (name :: path) (v.wrap (.name other :: steps)) = [] := by
                  simp [written, wrap, fieldList, Ne.symm hname]
                rw [if_neg hname, hwritten]
                exact alikeAt_refl _
      | index i =>
          cases path with
          -- the items differ, but a list is all that a path can tell
          | nil => exact .some (.inr (.inl ⟨⟨_, rfl⟩, ⟨_, rfl⟩⟩))
          | cons name path => exact absurd h.1 (not_isTable_of_isList ⟨_, rfl⟩)

end Value

/-! ## Layers -/

namespace Layer

/-- Every value that a layer writes at the end of a path, in order. -/
def written (L : Layer) (path : List String) : List Value :=
  L.flatMap fun entry => (entry.2.wrap (keyPath entry.1)).written path

/-- Whether a layer leads to the end of a path through tables. -/
def Leads (L : Layer) (path : List String) : Prop :=
  ∀ entry ∈ L, (entry.2.wrap (keyPath entry.1)).Leads path

theorem find?_over {L : Layer} {path : List String} (h : L.Leads path) (base : Value) :
    Value.AlikeAt ((L.over base).find? path) (Value.laid (base.find? path) (L.written path)) := by
  induction L generalizing base with
  | nil => exact Value.alikeAt_refl _
  | cons entry L ih =>
      have hentry := Value.find?_put (h entry List.mem_cons_self) base
      have hrest := ih (fun e he => h e (List.mem_cons_of_mem _ he)) (Value.put entry.2 (keyPath entry.1) base)
      rw [written, List.flatMap_cons, Value.laid_append]
      exact hrest.trans (hentry.laid _)

end Layer

/-- What stands at a path in a stack of layers. -/
theorem find?_stack {layers : List Layer} {path : List String} (h : ∀ L ∈ layers, L.Leads path) :
    Value.AlikeAt ((stack layers).find? path)
      (Value.laid ((Value.table []).find? path) (layers.flatMap (·.written path))) := by
  have hfold : ∀ base : Value,
      Value.AlikeAt ((layers.foldl (fun acc (layer : Layer) => layer.over acc) base).find? path)
        (Value.laid (base.find? path) (layers.flatMap (·.written path))) := by
    induction layers with
    | nil => exact fun base => Value.alikeAt_refl _
    | cons L layers ih =>
        intro base
        have hfirst := Layer.find?_over (h L List.mem_cons_self) base
        have hrest := ih (fun L' hL => h L' (List.mem_cons_of_mem _ hL)) (L.over base)
        rw [List.flatMap_cons, Value.laid_append]
        exact hrest.trans (hfirst.laid _)
  exact hfold _

end DiveSchool.Settings
