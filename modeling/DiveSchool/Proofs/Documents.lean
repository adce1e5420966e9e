import DiveSchool.Json.Document
import DiveSchool.Proofs.Fields
import DiveSchool.Proofs.Identifiers
import DiveSchool.Proofs.Moments

/-!
# `DiveSchool.Proofs.Documents` — documents are read as they were written

A document holds one of the school's records. Its reader is tolerant: it takes the fields in any order,
passes over fields that it does not know, and takes a missing field for an empty one where it may be empty.
Whatever else is written into a document, the record that was written is read.

A customer is the exception to one point. The kind may stand behind other fields, so the reader of texts
holds the whole object first, and fields that nobody asks for must be such that it can hold them. A value that
is held already is read under no such condition.

## Contents
- **Words and scalars.** What each value of a field is read as.
- **Records.** One lemma for each record: `Rewritten` fields are read as the record.
- **Customers.** The tag: `Customer.ofValue?_rewritten`, `Customer.tag_of_ofJson?`; and the limit of texts,
  `Customer.ofJson?_eq_some_iff`.
- **Moments of a record.** `Document.moments`, and what is read has valid ones.
- **Documents.** `documents_read_back`; `unreadable_field_refused`, what cannot be held.
-/

namespace DiveSchool

namespace Json

/-- The fields of an object. -/
def fields : Json → List (String × Json)
  | object fields => fields
  | _ => []

/-! ## Words and scalars -/

variable {name : String} {s : Slot Json}

theorem int32?_ofInt32 (i : Int32) : int32? (ofInt32 i) = some i := by
  have hlow := i.le_toInt
  have hhigh := i.toInt_lt
  have hrange : -2147483648 ≤ i.toInt ∧ i.toInt ≤ 2147483647 := by omega
  show (if -2147483648 ≤ i.toInt ∧ i.toInt ≤ 2147483647 then some (Int32.ofInt i.toInt) else none) = some i
  rw [if_pos hrange, Int32.ofInt_toInt]

theorem timestamp?_ofTimestamp {t : Timestamp} (h : t.Valid) : timestamp? (ofTimestamp t) = some t := by
  rw [timestamp?, ofTimestamp, text?, Option.bind_some, Timestamp.parse?_toText h]

theorem uuid?_ofUuid (u : Uuid) : uuid? (ofUuid u) = some u := by
  rw [uuid?, ofUuid, text?, Option.bind_some, u.parse?_toText]

theorem choice?_text {α : Type} {ofName? : String → Option α} {name : String} :
    choice? ofName? (text name) = ofName? name := rfl

/-- Every field of a record finds its slot in a document that was written in another way. -/
theorem slots?_rewritten {fields gs : List (String × Json)} (h : Rewritten isNull fields gs) (names : List String)
    (hnames : fields.map Prod.fst = names) (hnodup : names.Nodup) :
    ∃ slots, (object gs).slots? names = some slots ∧ List.Forall₂ (Slot.Fits isNull) fields slots := by
  subst hnames
  exact h.slots hnodup

/-- An optional field is read as it was written, also if it was left out. -/
theorem optional?_ofOption {α : Type} {write : α → Json} {read : Json → Option α} {a : Option α}
    (hwrite : ∀ x, isNull (write x) = false) (hread : ∀ x, read (write x) = some x)
    (h : Slot.Fits isNull (name, ofOption write a) s) : optional? read s = some a := by
  rw [optional?, h.optional]
  cases a with
  | none => rfl
  | some x =>
      simp only [ofOption, hwrite x, Bool.false_eq_true, if_false, hread x, Option.map_some]

theorem optional?_ofLevel? {l : Option Level} (h : Slot.Fits isNull (name, ofLevel? l) s) :
    optional? level? s = some l := by
  rw [ofLevel?] at h
  exact optional?_ofOption (fun _ => rfl) (fun l => choice?_text.trans l.ofCanonicalName?_canonicalName) h

end Json

theorem Kind.ofName?_name (k : Kind) : Kind.ofName? k.name = some k := by cases k <;> rfl

theorem Status.ofName?_name (s : Status) : Status.ofName? s.name = some s := by cases s <;> rfl

theorem CapacityState.ofName?_name (s : CapacityState) : CapacityState.ofName? s.name = some s := by
  cases s <;> rfl

theorem CustomerKind.name_of_ofName? {text : String} {k : CustomerKind}
    (h : CustomerKind.ofName? text = some k) : k.name = text := by
  rw [CustomerKind.ofName?] at h
  have hname := List.find?_some h
  exact eq_of_beq hname

open Json

variable {gs : List (String × Json)}

/-! ## Records -/

theorem Offering.ofJson?_rewritten {o : Offering} (hcreated : o.createdAt.Valid) (hupdated : o.updatedAt.Valid)
    (h : Rewritten isNull o.toJson.fields gs) : Offering.ofJson? (.object gs) = some o := by
  obtain ⟨slots, hslots, hfits⟩ := slots?_rewritten h Offering.fieldNames rfl (by decide)
  simp only [Offering.toJson, fields] at hfits
  obtain _ | ⟨hid, _ | ⟨hkind, _ | ⟨hname, _ | ⟨hcapacity, _ | ⟨hbookings, _ | ⟨hrequired, _ | ⟨hprovided,
    _ | ⟨hstatus, _ | ⟨hcreatedAt, _ | ⟨hupdatedAt, _ | _⟩⟩⟩⟩⟩⟩⟩⟩⟩⟩ := hfits
  simp only [Offering.ofJson?, hslots, Option.bind_eq_bind, Option.bind_some, hid.required rfl, uuid?_ofUuid,
    hkind.required rfl, hname.required rfl, hcapacity.required rfl, hbookings.required rfl,
    optional?_ofLevel? hrequired, optional?_ofLevel? hprovided, hstatus.required rfl, hcreatedAt.required rfl,
    hupdatedAt.required rfl, int32?_ofInt32, choice?_text, text?, Kind.ofName?_name, Status.ofName?_name,
    timestamp?_ofTimestamp hcreated, timestamp?_ofTimestamp hupdated]
  rfl

theorem Snapshot.ofJson?_rewritten {x : Snapshot} (h : Rewritten isNull x.toJson.fields gs) :
    Snapshot.ofJson? (.object gs) = some x := by
  obtain ⟨slots, hslots, hfits⟩ := slots?_rewritten h Snapshot.fieldNames rfl (by decide)
  simp only [Snapshot.toJson, fields] at hfits
  obtain _ | ⟨hid, _ | ⟨hcapacity, _ | ⟨hbookings, _ | ⟨havailable, _ | ⟨hstate, _ | _⟩⟩⟩⟩⟩ := hfits
  simp only [Snapshot.ofJson?, hslots, Option.bind_eq_bind, Option.bind_some, hid.required rfl, uuid?_ofUuid,
    hcapacity.required rfl, hbookings.required rfl, havailable.required rfl, hstate.required rfl,
    int32?_ofInt32, choice?_text, CapacityState.ofName?_name]
  rfl

theorem Booking.ofJson?_rewritten {b : Booking} (hissued : b.issuedAt.Valid)
    (h : Rewritten isNull b.toJson.fields gs) : Booking.ofJson? (.object gs) = some b := by
  obtain ⟨slots, hslots, hfits⟩ := slots?_rewritten h Booking.fieldNames rfl (by decide)
  simp only [Booking.toJson, fields] at hfits
  obtain _ | ⟨hreference, _ | ⟨hid, _ | ⟨hholder, _ | ⟨hissuedAt, _ | _⟩⟩⟩⟩ := hfits
  simp only [Booking.ofJson?, hslots, Option.bind_eq_bind, Option.bind_some, hreference.required rfl,
    hid.required rfl, uuid?_ofUuid, hholder.required rfl, hissuedAt.required rfl, text?,
    timestamp?_ofTimestamp hissued]
  rfl

theorem Premium.ofJson?_rewritten {r : Premium} (hcreated : r.createdAt.Valid)
    (h : Rewritten isNull r.toFields gs) : Premium.ofJson? (.object gs) = some r := by
  obtain ⟨slots, hslots, hfits⟩ := slots?_rewritten h Premium.fieldNames rfl (by decide)
  simp only [Premium.toFields] at hfits
  obtain _ | ⟨hid, _ | ⟨husername, _ | ⟨hfirst, _ | ⟨hlast, _ | ⟨hemail, _ | ⟨hlevel,
    _ | ⟨hcreatedAt, _ | _⟩⟩⟩⟩⟩⟩⟩ := hfits
  simp only [Premium.ofJson?, hslots, Option.bind_eq_bind, Option.bind_some, hid.required rfl, uuid?_ofUuid,
    husername.required rfl, hfirst.required rfl, hlast.required rfl, hemail.required rfl,
    optional?_ofLevel? hlevel, hcreatedAt.required rfl, text?, timestamp?_ofTimestamp hcreated]
  rfl

theorem Guest.ofJson?_rewritten {r : Guest} (h : Rewritten isNull r.toFields gs) :
    Guest.ofJson? (.object gs) = some r := by
  obtain ⟨slots, hslots, hfits⟩ := slots?_rewritten h Guest.fieldNames rfl (by decide)
  simp only [Guest.toFields] at hfits
  obtain _ | ⟨hid, _ | ⟨hfirst, _ | ⟨hlast, _ | ⟨hemail, _ | ⟨hphone, _ | ⟨hlevel, _ | _⟩⟩⟩⟩⟩⟩ := hfits
  have hphone' : optional? text? _ = some r.phone := optional?_ofOption (fun _ => rfl) (fun _ => rfl) hphone
  simp only [Guest.ofJson?, hslots, Option.bind_eq_bind, Option.bind_some, hid.required rfl, uuid?_ofUuid,
    hfirst.required rfl, hlast.required rfl, hemail.required rfl, hphone', optional?_ofLevel? hlevel]
  rfl

theorem Proposal.ofJson?_rewritten {p : Proposal} (h : Rewritten isNull p.toJson.fields gs) :
    Proposal.ofJson? (.object gs) = some p := by
  obtain ⟨slots, hslots, hfits⟩ := slots?_rewritten h Proposal.fieldNames rfl (by decide)
  simp only [Proposal.toJson, fields] at hfits
  obtain _ | ⟨hkind, _ | ⟨hname, _ | ⟨hcapacity, _ | ⟨hrequired, _ | ⟨hprovided, _ | ⟨hstatus, _ | _⟩⟩⟩⟩⟩⟩ :=
    hfits
  simp only [Proposal.ofJson?, hslots, Option.bind_eq_bind, Option.bind_some, hkind.required rfl,
    hname.required rfl, hcapacity.required rfl, optional?_ofLevel? hrequired, optional?_ofLevel? hprovided,
    hstatus.withDefault rfl, int32?_ofInt32, choice?_text, text?, Kind.ofName?_name, Status.ofName?_name]
  rfl

theorem Verdict.ofJson?_rewritten {v : Verdict} (h : Rewritten isNull v.toJson.fields gs) :
    Verdict.ofJson? (.object gs) = some v := by
  obtain ⟨slots, hslots, hfits⟩ := slots?_rewritten h ["valid", "message"] rfl (by decide)
  simp only [Verdict.toJson, fields] at hfits
  obtain _ | ⟨hvalid, _ | ⟨hmessage, _ | _⟩⟩ := hfits
  simp only [Verdict.ofJson?, hslots, Option.bind_eq_bind, Option.bind_some, hvalid.required rfl,
    hmessage.required rfl, bool?, text?]
  rfl

/-! ## Customers -/

namespace Customer

/-- The moments of a customer. -/
def moments : Customer → List Timestamp
  | premium r => [r.createdAt]
  | guest _ => []

/-- What is written of a customer can be held. -/
theorem isModest_toJson (c : Customer) : c.toJson.isModest = true := by
  cases c with
  | premium r =>
      obtain ⟨id, username, firstName, lastName, email, level, createdAt⟩ := r
      cases level <;> rfl
  | guest r =>
      obtain ⟨id, firstName, lastName, email, phone, level⟩ := r
      cases phone <;> cases level <;> rfl

/-- **The limit of texts.** What stands in a text is read as the value is, if it can be held. -/
theorem ofJson?_eq_some_iff {j : Json} {c : Customer} :
    Customer.ofJson? j = some c ↔ j.isModest = true ∧ Customer.ofValue? j = some c := by
  unfold Customer.ofJson?
  cases j.isModest with
  | true => exact (and_iff_right rfl).symm
  | false => exact iff_of_false nofun fun h => Bool.false_ne_true h.1

/-- A customer is read by the tag, wherever it stands, and then by the fields of that kind. -/
theorem ofValue?_rewritten {c : Customer} (hmoments : ∀ t ∈ c.moments, t.Valid)
    (h : Rewritten isNull c.toJson.fields gs) : Customer.ofValue? (.object gs) = some c := by
  cases c with
  | premium r =>
      obtain ⟨htag, hrest⟩ := h.tagged (show tagName ∉ Premium.fieldNames by decide) rfl
      have hsplit : splitTag? (.object gs) = some (.premium, .object (gs.filter (·.1 != tagName))) := by
        rw [splitTag?, htag]
        rfl
      simp only [ofValue?, hsplit, Premium.ofJson?_rewritten (hmoments _ List.mem_cons_self) hrest,
        Option.map_some]
  | guest r =>
      obtain ⟨htag, hrest⟩ := h.tagged (show tagName ∉ Guest.fieldNames by decide) rfl
      have hsplit : splitTag? (.object gs) = some (.guest, .object (gs.filter (·.1 != tagName))) := by
        rw [splitTag?, htag]
        rfl
      simp only [ofValue?, hsplit, Guest.ofJson?_rewritten hrest, Option.map_some]

theorem tag_of_splitTag? {k : CustomerKind} {rest : Json} (h : splitTag? (.object gs) = some (k, rest)) :
    gs.filter (·.1 == tagName) = [(tagName, .text k.name)] := by
  simp only [splitTag?] at h
  split at h
  · next n name htag =>
      obtain ⟨k', hk, heq⟩ := Option.map_eq_some_iff.mp h
      cases heq
      have hname := CustomerKind.name_of_ofName? hk
      have htagged : (n, text name) ∈ gs.filter (·.1 == tagName) := htag ▸ List.mem_cons_self
      have hn : n = tagName := eq_of_beq (List.mem_filter.mp htagged).2
      rw [htag, hn, hname]
  · cases h

/-- What is read as a customer has one tag, and the tag names the kind of the customer. -/
theorem tag_of_ofJson? {c : Customer} (h : Customer.ofJson? (.object gs) = some c) :
    gs.filter (·.1 == tagName) = [(tagName, .text c.kind.name)] := by
  have hvalue := (ofJson?_eq_some_iff.mp h).2
  unfold Customer.ofValue? at hvalue
  split at hvalue
  · next rest htag =>
      obtain ⟨r, -, rfl⟩ := Option.map_eq_some_iff.mp hvalue
      exact tag_of_splitTag? htag
  · next rest htag =>
      obtain ⟨r, -, rfl⟩ := Option.map_eq_some_iff.mp hvalue
      exact tag_of_splitTag? htag
  · cases hvalue

end Customer

/-! ## Moments of a record -/

theorem Json.valid_of_required {slot : Slot Json} {t : Timestamp} (h : slot.required timestamp? = some t) :
    t.Valid := by
  cases slot with
  | given j =>
      obtain ⟨text, -, htext⟩ := Option.bind_eq_some_iff.mp h
      exact Timestamp.valid_of_parse? htext
  | missing => cases h
  | beyond => cases h

theorem Offering.valid_of_ofJson? {j : Json} {o : Offering} (h : Offering.ofJson? j = some o) :
    o.createdAt.Valid ∧ o.updatedAt.Valid := by
  simp only [Offering.ofJson?, Option.bind_eq_bind, Option.bind_eq_some_iff] at h
  obtain ⟨slots, -, h⟩ := h
  split at h
  · simp only [Option.bind_eq_some_iff] at h
    obtain ⟨_, -, _, -, _, -, _, -, _, -, _, -, _, -, _, -, createdAt, hcreated, updatedAt, hupdated, h⟩ := h
    cases h
    exact ⟨valid_of_required hcreated, valid_of_required hupdated⟩
  · cases h

theorem Booking.valid_of_ofJson? {j : Json} {b : Booking} (h : Booking.ofJson? j = some b) :
    b.issuedAt.Valid := by
  simp only [Booking.ofJson?, Option.bind_eq_bind, Option.bind_eq_some_iff] at h
  obtain ⟨slots, -, h⟩ := h
  split at h
  · simp only [Option.bind_eq_some_iff] at h
    obtain ⟨_, -, _, -, _, -, issued, hissued, h⟩ := h
    cases h
    exact valid_of_required hissued
  · cases h

theorem Premium.valid_of_ofJson? {j : Json} {r : Premium} (h : Premium.ofJson? j = some r) :
    r.createdAt.Valid := by
  simp only [Premium.ofJson?, Option.bind_eq_bind, Option.bind_eq_some_iff] at h
  obtain ⟨slots, -, h⟩ := h
  split at h
  · simp only [Option.bind_eq_some_iff] at h
    obtain ⟨_, -, _, -, _, -, _, -, _, -, _, -, created, hcreated, h⟩ := h
    cases h
    exact valid_of_required hcreated
  · cases h

theorem Customer.valid_of_ofJson? {j : Json} {c : Customer} (h : Customer.ofJson? j = some c) :
    ∀ t ∈ c.moments, t.Valid := by
  have hvalue := (Customer.ofJson?_eq_some_iff.mp h).2
  unfold Customer.ofValue? at hvalue
  split at hvalue
  · obtain ⟨r, hr, rfl⟩ := Option.map_eq_some_iff.mp hvalue
    exact List.forall_mem_singleton.mpr (Premium.valid_of_ofJson? hr)
  · obtain ⟨r, -, rfl⟩ := Option.map_eq_some_iff.mp hvalue
    exact List.forall_mem_nil _
  · cases hvalue

/-! ## Documents -/

/-- A document with one of the school's records. -/
inductive Document where
  | offering (o : Offering)
  | snapshot (s : Snapshot)
  | booking (b : Booking)
  | customer (c : Customer)
  | proposal (p : Proposal)
  | verdict (v : Verdict)

namespace Document

/-- Which record a document is to hold. -/
inductive Form where
  | offering
  | snapshot
  | booking
  | customer
  | proposal
  | verdict

/-- Read a document of a form from what stands in a text. -/
def Form.read : Form → Json → Option Document
  | offering, j => (Offering.ofJson? j).map .offering
  | snapshot, j => (Snapshot.ofJson? j).map .snapshot
  | booking, j => (Booking.ofJson? j).map .booking
  | customer, j => (Customer.ofJson? j).map .customer
  | proposal, j => (Proposal.ofJson? j).map .proposal
  | verdict, j => (Verdict.ofJson? j).map .verdict

/-- Read a document of a form from a value that is held. -/
def Form.ofValue? : Form → Json → Option Document
  | customer, j => (Customer.ofValue? j).map .customer
  | f, j => f.read j

/-- Whether the reader of texts can take up what stands there: to find the tag of a customer it holds the
    whole value. -/
def Form.CanHold : Form → Json → Prop
  | customer, j => j.isModest = true
  | _, _ => True

/-- The form of a document. -/
def form : Document → Form
  | offering _ => .offering
  | snapshot _ => .snapshot
  | booking _ => .booking
  | customer _ => .customer
  | proposal _ => .proposal
  | verdict _ => .verdict

/-- Write a document. -/
def toJson : Document → Json
  | offering o => o.toJson
  | snapshot s => s.toJson
  | booking b => b.toJson
  | customer c => c.toJson
  | proposal p => p.toJson
  | verdict v => v.toJson

/-- The moments in a document. -/
def moments : Document → List Timestamp
  | offering o => [o.createdAt, o.updatedAt]
  | booking b => [b.issuedAt]
  | customer c => c.moments
  | snapshot _ | proposal _ | verdict _ => []

theorem toJson_fields (d : Document) : d.toJson = .object d.toJson.fields := by
  cases d with
  | customer c => cases c <;> rfl
  | offering o => rfl
  | snapshot s => rfl
  | booking b => rfl
  | proposal p => rfl
  | verdict v => rfl

theorem canHold_toJson (d : Document) : d.form.CanHold d.toJson := by
  cases d with
  | customer c => exact c.isModest_toJson
  | offering o => trivial
  | snapshot s => trivial
  | booking b => trivial
  | proposal p => trivial
  | verdict v => trivial

/-- A document in a text is read as its value is, if it can be held. -/
theorem Form.read_eq_some_iff {f : Form} {j : Json} {d : Document} :
    f.read j = some d ↔ f.CanHold j ∧ f.ofValue? j = some d := by
  cases f with
  | customer =>
      simp only [read, ofValue?, CanHold, Option.map_eq_some_iff, Customer.ofJson?_eq_some_iff, and_assoc,
        exists_and_left]
  | offering => exact (and_iff_right trivial).symm
  | snapshot => exact (and_iff_right trivial).symm
  | booking => exact (and_iff_right trivial).symm
  | proposal => exact (and_iff_right trivial).symm
  | verdict => exact (and_iff_right trivial).symm

theorem ofValue?_rewritten {d : Document} (hmoments : ∀ t ∈ d.moments, t.Valid)
    (h : Rewritten isNull d.toJson.fields gs) : d.form.ofValue? (.object gs) = some d := by
  cases d with
  | offering o =>
      obtain ⟨hcreated, hupdated⟩ := List.forall_mem_cons.mp hmoments
      exact congrArg (Option.map offering)
        (Offering.ofJson?_rewritten hcreated (hupdated _ List.mem_cons_self) h)
  | snapshot s => exact congrArg (Option.map snapshot) (Snapshot.ofJson?_rewritten h)
  | booking b =>
      exact congrArg (Option.map booking) (Booking.ofJson?_rewritten (hmoments _ List.mem_cons_self) h)
  | customer c => exact congrArg (Option.map customer) (Customer.ofValue?_rewritten hmoments h)
  | proposal p => exact congrArg (Option.map proposal) (Proposal.ofJson?_rewritten h)
  | verdict v => exact congrArg (Option.map verdict) (Verdict.ofJson?_rewritten h)

theorem valid_of_read {f : Form} {j : Json} {d : Document} (h : f.read j = some d) :
    d.form = f ∧ ∀ t ∈ d.moments, t.Valid := by
  cases f with
  | offering =>
      obtain ⟨o, ho, rfl⟩ := Option.map_eq_some_iff.mp h
      obtain ⟨hcreated, hupdated⟩ := Offering.valid_of_ofJson? ho
      exact ⟨rfl, List.forall_mem_cons.mpr ⟨hcreated, List.forall_mem_singleton.mpr hupdated⟩⟩
  | booking =>
      obtain ⟨b, hb, rfl⟩ := Option.map_eq_some_iff.mp h
      exact ⟨rfl, List.forall_mem_singleton.mpr (Booking.valid_of_ofJson? hb)⟩
  | customer =>
      obtain ⟨c, hc, rfl⟩ := Option.map_eq_some_iff.mp h
      exact ⟨rfl, Customer.valid_of_ofJson? hc⟩
  | snapshot =>
      obtain ⟨s, -, rfl⟩ := Option.map_eq_some_iff.mp h
      exact ⟨rfl, List.forall_mem_nil _⟩
  | proposal =>
      obtain ⟨p, -, rfl⟩ := Option.map_eq_some_iff.mp h
      exact ⟨rfl, List.forall_mem_nil _⟩
  | verdict =>
      obtain ⟨v, -, rfl⟩ := Option.map_eq_some_iff.mp h
      exact ⟨rfl, List.forall_mem_nil _⟩

/-- A document is read as it was written. -/
theorem read_toJson {d : Document} (hmoments : ∀ t ∈ d.moments, t.Valid) : d.form.read d.toJson = some d := by
  have hheld := d.canHold_toJson
  rw [d.toJson_fields] at hheld ⊢
  exact Form.read_eq_some_iff.mpr ⟨hheld, ofValue?_rewritten hmoments .same⟩

end Document

/-- **Documents are read as they were written**, also if their fields stand in another order, unknown fields
    stand among them, or null ones are left out; in a text, a customer's document must be one that can be
    held. A customer is of the kind that the only tag names, and without a tag of either kind there is none.
    Whatever was read, written again it is read as the same record. A value that is held is read under no
    condition, and this is all that tells the two ways to read apart. -/
theorem documents_read_back :
    (∀ d : Document, (∀ t ∈ d.moments, t.Valid) →
      d.form.read d.toJson = some d ∧
      ∀ gs, Rewritten isNull d.toJson.fields gs → d.form.CanHold (.object gs) →
        d.form.read (.object gs) = some d) ∧
    (∀ gs c, Customer.ofJson? (.object gs) = some c →
      gs.filter (·.1 == Customer.tagName) = [(Customer.tagName, .text c.kind.name)]) ∧
    (∀ gs, (∀ k : CustomerKind, (Customer.tagName, .text k.name) ∉ gs) →
      Customer.ofJson? (.object gs) = none) ∧
    (∀ (f : Document.Form) j d, f.read j = some d → f.read d.toJson = some d) ∧
    (∀ d : Document, (∀ t ∈ d.moments, t.Valid) →
      ∀ gs, Rewritten isNull d.toJson.fields gs → d.form.ofValue? (.object gs) = some d) ∧
    ∀ (f : Document.Form) j d, f.read j = some d ↔ f.CanHold j ∧ f.ofValue? j = some d := by
  refine ⟨fun d hmoments => ⟨d.read_toJson hmoments, fun gs h hheld => ?_⟩,
    fun gs c h => Customer.tag_of_ofJson? h, fun gs hnone => ?_, fun f j d h => ?_,
    fun d hmoments gs h => d.ofValue?_rewritten hmoments h, fun f j d => Document.Form.read_eq_some_iff⟩
  · exact Document.Form.read_eq_some_iff.mpr ⟨hheld, d.ofValue?_rewritten hmoments h⟩
  · refine Option.eq_none_iff_forall_ne_some.mpr fun c hc => hnone c.kind ?_
    have htag : (Customer.tagName, .text c.kind.name) ∈ gs.filter (·.1 == Customer.tagName) :=
      Customer.tag_of_ofJson? hc ▸ List.mem_cons_self
    exact (List.mem_filter.mp htag).1
  · obtain ⟨rfl, hmoments⟩ := Document.valid_of_read h
    exact Document.read_toJson hmoments

namespace Ana

/-- A customer without a level. -/
def ana : Customer := .premium ⟨.zero, "ana", "Ana", "Reyes", "ana@example.org", none, ⟨0, 0⟩⟩

/-- A guest. -/
def liam : Customer := .guest ⟨.zero, "Liam", "Kerr", "liam@example.org", none, none⟩

/-- The document of the customer as someone else writes it: the last fields come first, the level is left
    out, and there is a remark. -/
def letter : List (String × Json) :=
  ("remark", .array [.int 3]) :: ana.toJson.fields.drop 7 ++ ana.toJson.fields.take 6

/-- A value in a number of lists. -/
def nested : Nat → Json
  | 0 => .null
  | n + 1 => .array [nested n]

end Ana

open Ana in
/-- The letter is read as what the school wrote. -/
theorem letter_read :
    (∀ t ∈ ana.moments, t.Valid) ∧ Rewritten isNull ana.toJson.fields letter ∧
    (Json.object letter).isModest = true ∧
    Document.Form.customer.read (.object letter) = some (.customer ana) := by
  have hmoments : ∀ t ∈ ana.moments, t.Valid := List.forall_mem_singleton.mpr ⟨by decide, by decide, by decide⟩
  have horder : ana.toJson.fields.Perm (ana.toJson.fields.drop 6 ++ ana.toJson.fields.take 6) :=
    (List.Perm.of_eq (List.take_append_drop 6 _).symm).trans List.perm_append_comm
  have hletter : Rewritten isNull ana.toJson.fields letter :=
    .extended (.reduced (.reordered .same horder) rfl) (by decide) _
  have hheld : (Json.object letter).isModest = true := by decide
  exact ⟨hmoments, hletter, hheld, (documents_read_back.1 (.customer ana) hmoments).2 letter hletter hheld⟩

open Ana in
/-- **What cannot be held.** A customer with a field that nobody asks for is refused if no characters can be
    made of its text, or if it is nested too deep; in a verdict the same fields are passed over. -/
theorem unreadable_field_refused :
    Rewritten isNull liam.toJson.fields (("x", .garbled) :: liam.toJson.fields) ∧
    Rewritten isNull liam.toJson.fields (("x", nested 127) :: liam.toJson.fields) ∧
    Customer.ofJson? liam.toJson = some liam ∧
    Customer.ofJson? (.object (("x", .garbled) :: liam.toJson.fields)) = none ∧
    Customer.ofJson? (.object (("x", nested 127) :: liam.toJson.fields)) = none ∧
    Verdict.ofJson? (.object [("x", .garbled), ("y", nested 127), ("valid", true), ("message", "ok")]) =
      some ⟨true, "ok"⟩ := by
  have hunknown : "x" ∉ liam.toJson.fields.map Prod.fst := by decide
  exact ⟨.extended .same hunknown _, .extended .same hunknown _, by decide +kernel, by decide +kernel,
    by decide +kernel, by decide +kernel⟩

end DiveSchool
