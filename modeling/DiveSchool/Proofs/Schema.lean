import DiveSchool.Proofs.Overlay

/-!
# `DiveSchool.Proofs.Schema` — the settings, one by one

A table is taken as settings exactly if every setting takes what stands at its own path, and a setting at whose
path nothing stands has its default. So a section that is missing is as good as an empty one, and a section
that lacks a setting keeps the others.

## Contents
- **Settings.** `Setting`, its path, and what it takes.
- **Sections.** One equation for each reader; `sections`, the paths of all sections.
- **Tables.** `settings_eq_some_iff`, `settings_eq_none_iff`.
-/

namespace DiveSchool

open Settings (Value)

/-! ## Settings -/

/-- The settings, one by one. -/
inductive Setting where
  | url
  | maxConnections
  | minConnections
  | connectTimeout
  | idleTimeout
  | backend
  | strategy
  | lockTimeout
  | unique
  | maxAttempts
  | level
  | format
  deriving DecidableEq, Repr

namespace Setting

/-- What a setting holds. -/
def Content : Setting → Type
  | url | level | format => String
  | maxConnections | minConnections | maxAttempts => UInt32
  | connectTimeout | idleTimeout | lockTimeout => UInt64
  | backend => Backend
  | strategy => StrategyKind
  | unique => Bool

instance : (x : Setting) → DecidableEq x.Content
  | url | level | format => inferInstanceAs (DecidableEq String)
  | maxConnections | minConnections | maxAttempts => inferInstanceAs (DecidableEq UInt32)
  | connectTimeout | idleTimeout | lockTimeout => inferInstanceAs (DecidableEq UInt64)
  | backend => inferInstanceAs (DecidableEq Backend)
  | strategy => inferInstanceAs (DecidableEq StrategyKind)
  | unique => inferInstanceAs (DecidableEq Bool)

/-- The path at which a setting is written. -/
def path : Setting → List String
  | url => ["database", "url"]
  | maxConnections => ["database", "max_connections"]
  | minConnections => ["database", "min_connections"]
  | connectTimeout => ["database", "connect_timeout_seconds"]
  | idleTimeout => ["database", "idle_timeout_seconds"]
  | backend => ["booking", "store"]
  | strategy => ["booking", "eligibility_strategy"]
  | lockTimeout => ["booking", "lock_timeout_ms"]
  | unique => ["booking", "reference", "unique"]
  | maxAttempts => ["booking", "reference", "max_attempts"]
  | level => ["logging", "level"]
  | format => ["logging", "format"]

/-- What a setting makes of a value, if it accepts the value. -/
def read : (x : Setting) → Value → Option x.Content
  | url | level | format => Value.reading.text
  | maxConnections | minConnections | maxAttempts => Value.reading.nat32
  | connectTimeout | idleTimeout | lockTimeout => Value.reading.nat64
  | backend => fun v => (Value.reading.word v).bind Backend.ofName?
  | strategy => fun v => (Value.reading.word v).bind StrategyKind.ofName?
  | unique => Value.reading.truth

/-- What a setting is among all settings. -/
def field : (x : Setting) → Settings → x.Content
  | url => (·.database.url)
  | maxConnections => (·.database.maxConnections)
  | minConnections => (·.database.minConnections)
  | connectTimeout => (·.database.connectTimeout)
  | idleTimeout => (·.database.idleTimeout)
  | backend => (·.booking.backend)
  | strategy => (·.booking.strategy)
  | lockTimeout => (·.booking.lockTimeout)
  | unique => (·.booking.reference.unique)
  | maxAttempts => (·.booking.reference.maxAttempts)
  | level => (·.logging.level)
  | format => (·.logging.format)

/-- What a setting comes to by the value at its path: without one it has its default. -/
def taken (x : Setting) (o : Option Value) : Option x.Content := o.elim (some (x.field {})) x.read

theorem taken_eq_some_iff (x : Setting) {o : Option Value} {content : x.Content} :
    x.taken o = some content ↔ match o with
      | some v => x.read v = some content
      | none => content = x.field {} := by
  cases o with
  | none => exact Option.some_inj.trans eq_comm
  | some v => exact Iff.rfl

/-- Something holds of every setting if it does so section by section. -/
theorem forall_iff {P : Setting → Prop} : (∀ x, P x) ↔
    (P url ∧ P maxConnections ∧ P minConnections ∧ P connectTimeout ∧ P idleTimeout) ∧
      (P backend ∧ P strategy ∧ P lockTimeout ∧ P unique ∧ P maxAttempts) ∧ P level ∧ P format := by
  constructor
  · exact fun h => ⟨⟨h _, h _, h _, h _, h _⟩, ⟨h _, h _, h _, h _, h _⟩, h _, h _⟩
  · rintro ⟨⟨hurl, hmost, hleast, hconnect, hidle⟩, ⟨hbackend, hstrategy, hlock, hunique, hattempts⟩, hlevel,
      hformat⟩ x
    cases x <;> assumption

instance {P : Setting → Prop} [DecidablePred P] : Decidable (∀ x, P x) := decidable_of_iff _ forall_iff.symm

/-- Settings can be put together from any contents. -/
theorem exists_settings (content : (x : Setting) → x.Content) :
    ∃ s : Settings, ∀ x : Setting, x.field s = content x := by
  refine ⟨⟨⟨content url, content maxConnections, content minConnections, content connectTimeout,
    content idleTimeout⟩,
    ⟨content backend, content strategy, content lockTimeout, ⟨content unique, content maxAttempts⟩⟩,
    ⟨content level, content format⟩⟩, fun x => ?_⟩
  cases x <;> rfl

/-- No setting accepts a list. -/
theorem read_list (x : Setting) (items : List Value) : x.read (.list items) = none := by
  cases x <;> rfl

/-- A setting that is given no table takes like values in the same way. -/
theorem taken_eq {x : Setting} {o o' : Option Value} (h : Value.AlikeAt o o')
    (hplain : ∀ v, o' = some v → ¬v.IsTable) : x.taken o = x.taken o' := by
  cases h with
  | none => rfl
  | @some v w hvw =>
      rcases hvw with rfl | ⟨⟨items, rfl⟩, ⟨others, rfl⟩⟩ | ⟨-, hw⟩
      · rfl
      · exact (x.read_list items).trans (x.read_list others).symm
      · exact absurd hw (hplain w rfl)

end Setting

/-! ## Sections -/

namespace Settings

/-- The paths of the sections. -/
def sections : List (List String) := [["database"], ["booking"], ["booking", "reference"], ["logging"]]

namespace Value

/-- The slot of a field that has this value, or none. -/
def slotOf (o : Option Value) : Slot Value := o.elim .missing .given

theorem slots_table (names : List String) (fs : List (String × Value)) :
    reading.slots names (table fs) = some (names.map fun n => slotOf (fs.lookup n)) := by
  refine congrArg some (List.map_congr_left fun n _ => ?_)
  cases fs.lookup n <;> rfl

theorem withDefault_slotOf {α : Type} (d : α) (read : Value → Option α) (o : Option Value) :
    (slotOf o).withDefault d read = o.elim (some d) read := by
  cases o <;> rfl

/-- The fields of a section. A missing section has none. -/
def sectionFields (o : Option Value) : List (String × Value) := (o.map fieldList).getD []

/-- A missing section is as good as an empty one. -/
theorem elim_section {α : Type} {read : Value → Option α} {d : α} (hempty : read (table []) = some d)
    {o : Option Value} (ho : ∀ v, o = some v → v.IsTable) :
    o.elim (some d) read = read (table (sectionFields o)) := by
  cases o with
  | none => exact hempty.symm
  | some v =>
      obtain ⟨fs, rfl⟩ := ho v rfl
      rfl

theorem bind_find?_cons (name : String) (path : List String) (o : Option Value) :
    o.bind (find? (name :: path)) = ((sectionFields o).lookup name).bind (find? path) := by
  cases o <;> rfl

theorem bind_find?_nil (o : Option Value) : o.bind (find? []) = o := by
  cases o <;> rfl

variable {fs : List (String × Value)}

theorem database_eq_some {d : DatabaseSettings} : reading.database (table fs) = some d ↔
    Setting.url.taken (fs.lookup "url") = some d.url ∧
      Setting.maxConnections.taken (fs.lookup "max_connections") = some d.maxConnections ∧
      Setting.minConnections.taken (fs.lookup "min_connections") = some d.minConnections ∧
      Setting.connectTimeout.taken (fs.lookup "connect_timeout_seconds") = some d.connectTimeout ∧
      Setting.idleTimeout.taken (fs.lookup "idle_timeout_seconds") = some d.idleTimeout := by
  simp only [Reading.database, slots_table, List.map_cons, List.map_nil, Option.bind_eq_bind, Option.bind_some,
    withDefault_slotOf, Option.bind_eq_some_iff, Option.pure_def, Option.some.injEq]
  constructor
  · rintro ⟨url, hurl, most, hmost, least, hleast, connect, hconnect, idle, hidle, rfl⟩
    exact ⟨hurl, hmost, hleast, hconnect, hidle⟩
  · rintro ⟨hurl, hmost, hleast, hconnect, hidle⟩
    exact ⟨_, hurl, _, hmost, _, hleast, _, hconnect, _, hidle, rfl⟩

theorem reference_eq_some {r : ReferenceRule} : reading.reference (table fs) = some r ↔
    Setting.unique.taken (fs.lookup "unique") = some r.unique ∧
      Setting.maxAttempts.taken (fs.lookup "max_attempts") = some r.maxAttempts := by
  simp only [Reading.reference, slots_table, List.map_cons, List.map_nil, Option.bind_eq_bind, Option.bind_some,
    withDefault_slotOf, Option.bind_eq_some_iff, Option.pure_def, Option.some.injEq]
  constructor
  · rintro ⟨unique, hunique, attempts, hattempts, rfl⟩
    exact ⟨hunique, hattempts⟩
  · rintro ⟨hunique, hattempts⟩
    exact ⟨_, hunique, _, hattempts, rfl⟩

theorem booking_eq_some {b : BookingSettings} : reading.booking (table fs) = some b ↔
    Setting.backend.taken (fs.lookup "store") = some b.backend ∧
      Setting.strategy.taken (fs.lookup "eligibility_strategy") = some b.strategy ∧
      Setting.lockTimeout.taken (fs.lookup "lock_timeout_ms") = some b.lockTimeout ∧
      (fs.lookup "reference").elim (some {}) reading.reference = some b.reference := by
  simp only [Reading.booking, slots_table, List.map_cons, List.map_nil, Option.bind_eq_bind, Option.bind_some,
    withDefault_slotOf, Option.bind_eq_some_iff, Option.pure_def, Option.some.injEq]
  constructor
  · rintro ⟨backend, hbackend, strategy, hstrategy, lock, hlock, reference, hreference, rfl⟩
    exact ⟨hbackend, hstrategy, hlock, hreference⟩
  · rintro ⟨hbackend, hstrategy, hlock, hreference⟩
    exact ⟨_, hbackend, _, hstrategy, _, hlock, _, hreference, rfl⟩

theorem logging_eq_some {l : LoggingSettings} : reading.logging (table fs) = some l ↔
    Setting.level.taken (fs.lookup "level") = some l.level ∧
      Setting.format.taken (fs.lookup "format") = some l.format := by
  simp only [Reading.logging, slots_table, List.map_cons, List.map_nil, Option.bind_eq_bind, Option.bind_some,
    withDefault_slotOf, Option.bind_eq_some_iff, Option.pure_def, Option.some.injEq]
  constructor
  · rintro ⟨level, hlevel, format, hformat, rfl⟩
    exact ⟨hlevel, hformat⟩
  · rintro ⟨hlevel, hformat⟩
    exact ⟨_, hlevel, _, hformat, rfl⟩

theorem settings_eq_some {s : Settings} : reading.settings (table fs) = some s ↔
    (fs.lookup "database").elim (some {}) reading.database = some s.database ∧
      (fs.lookup "booking").elim (some {}) reading.booking = some s.booking ∧
      (fs.lookup "logging").elim (some {}) reading.logging = some s.logging := by
  simp only [Reading.settings, slots_table, List.map_cons, List.map_nil, Option.bind_eq_bind, Option.bind_some,
    withDefault_slotOf, Option.bind_eq_some_iff, Option.pure_def, Option.some.injEq]
  constructor
  · rintro ⟨database, hdatabase, booking, hbooking, logging, hlogging, rfl⟩
    exact ⟨hdatabase, hbooking, hlogging⟩
  · rintro ⟨hdatabase, hbooking, hlogging⟩
    exact ⟨_, hdatabase, _, hbooking, _, hlogging, rfl⟩

/-! ## Tables -/

/-- Whether a value is a table in which sections are tables as well. -/
structure Sectioned (v : Value) : Prop where
  table : v.IsTable
  sections : ∀ p ∈ Settings.sections, ∀ w, v.find? p = some w → w.IsTable

variable {v : Value}

/-- **A table is taken as settings** exactly if each setting takes what stands at its own path. -/
theorem settings_eq_some_iff (h : v.Sectioned) {s : Settings} :
    reading.settings v = some s ↔ ∀ x : Setting, x.taken (v.find? x.path) = some (x.field s) := by
  obtain ⟨⟨fs, rfl⟩, hsections⟩ := h
  have hfind : ∀ name path, (Value.table fs).find? (name :: path) = (fs.lookup name).bind (find? path) :=
    fun _ _ => rfl
  simp only [Settings.sections, List.forall_mem_cons, hfind, bind_find?_cons, bind_find?_nil] at hsections
  obtain ⟨hdatabase, hbooking, hreference, hlogging, -⟩ := hsections
  -- an empty section has the same settings as a missing one
  have hdatabase' : reading.database (.table []) = some {} := rfl
  have hbooking' : reading.booking (.table []) = some {} := rfl
  have hreference' : reading.reference (.table []) = some {} := rfl
  have hlogging' : reading.logging (.table []) = some {} := rfl
  rw [settings_eq_some, elim_section hdatabase' hdatabase, elim_section hbooking' hbooking,
    elim_section hlogging' hlogging, database_eq_some, booking_eq_some, logging_eq_some,
    elim_section hreference' hreference, reference_eq_some, Setting.forall_iff]
  simp only [Setting.path, Setting.field, hfind, bind_find?_cons, bind_find?_nil]
  exact Iff.rfl

/-- **A table is no settings** exactly if some setting does not accept what stands at its path. -/
theorem settings_eq_none_iff (h : v.Sectioned) :
    reading.settings v = none ↔ ∃ x : Setting, x.taken (v.find? x.path) = none := by
  constructor
  · intro hnone
    by_contra hall
    rw [not_exists] at hall
    choose content hcontent using fun x => Option.ne_none_iff_exists'.mp (hall x)
    obtain ⟨s, hs⟩ := Setting.exists_settings content
    have hsome : reading.settings v = some s := (settings_eq_some_iff h).mpr fun x => by rw [hcontent, hs]
    rw [hnone] at hsome
    cases hsome
  · rintro ⟨x, hx⟩
    rw [Option.eq_none_iff_forall_ne_some]
    intro s hs
    rw [(settings_eq_some_iff h).mp hs x] at hx
    cases hx

end Value

end Settings

end DiveSchool
