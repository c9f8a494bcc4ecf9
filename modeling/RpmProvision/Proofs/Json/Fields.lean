/-
The fields of a written record are read back.

A record is shown by many documents. Its members may stand in any order, with others among them; or
it is an array of its fields in their order, of which those at the end may be missing. A field that
may be absent is left out then or written as `null`. These are also the only documents that its fields
are read from.

* **`mapM_eq_some_iff`** — the elements of a list, each read alike;
* **`Shows`** — the documents that show the fields of a record;
* **`fields?_eq_some_iff`** — in these every field is found, and an absent one is found to be absent;
* **`fields?_written`** — so it is for a record that is written from a list of its fields;
* **`optional?_eq_some_iff`**, **`defaulted?_eq_some_iff`**, **`variant?_eq_some_iff`** — how a single
  field shows its value.
-/
import Mathlib.Data.List.Forall2
import RpmProvision.Graph.Document
import RpmProvision.Proofs.Json.Grammar

namespace RpmProvision.Json

variable {α β : Type} {v : Json}

/-! ### Numbers, texts and lists -/

theorem text?_eq_some_iff {s : String} : text? v = some s ↔ v = ofText s := by
  constructor
  · intro h
    cases v <;> cases h
    rfl
  · rintro rfl
    rfl

theorem natural?_natural (n : Nat) : natural? (natural n) = some n := by
  have hdigits : (Nat.toDigits 10 n).all Char.isDigit = true :=
    List.all_eq_true.mpr fun c hc => Nat.isDigit_of_mem_toDigits (by omega) (by omega) hc
  rw [natural, natural?, if_pos hdigits, Nat.ofDigitChars_ten_toDigits]

/-- A natural number is read from its own digits only, since a number has no leading zeros. -/
theorem eq_natural_of_natural? {n : Nat} (hv : Formed v) (h : natural? v = some n) :
    v = natural n := by
  cases v with
  | number numeral =>
    rw [natural?] at h
    by_cases hdigits : numeral.all Char.isDigit
    · rw [if_pos hdigits] at h
      cases h
      have hnumeral : IsNumeral numeral := hv numeral (List.mem_singleton.mpr rfl)
      have hinteger := isInteger_of_isDigit hnumeral (List.all_eq_true.mp hdigits)
      rw [natural, toDigits_ofDigitChars hinteger]
    · rw [if_neg hdigits] at h
      cases h
  | _ => cases h

theorem word64?_ofWord64 (n : UInt64) : word64? (ofWord64 n) = some n := by
  rw [word64?, ofWord64, natural?_natural, Option.bind_some, if_pos n.toNat_lt, UInt64.ofNat_toNat]

theorem word64?_eq_some_iff {n : UInt64} (hv : Formed v) : word64? v = some n ↔ v = ofWord64 n := by
  constructor
  · intro h
    obtain ⟨k, hk, h⟩ := Option.bind_eq_some_iff.mp h
    by_cases hsize : k < UInt64.size
    · rw [if_pos hsize] at h
      cases h
      rw [eq_natural_of_natural? hv hk, ofWord64, UInt64.toNat_ofNat_of_lt' hsize]
    · rw [if_neg hsize] at h
      cases h
  · rintro rfl
    exact word64?_ofWord64 n

/-- A list is read if every element is read. -/
theorem mapM_eq_some_iff {read : α → Option β} {l : List α} {l' : List β} :
    l.mapM read = some l' ↔ List.Forall₂ (fun a b => read a = some b) l l' := by
  induction l generalizing l' with
  | nil =>
    rw [List.mapM_nil, List.forall₂_nil_left_iff]
    exact Option.some_inj.trans eq_comm
  | cons a rest ih =>
    rw [List.mapM_cons, List.forall₂_cons_left_iff]
    constructor
    · intro h
      obtain ⟨b, hb, h⟩ := Option.bind_eq_some_iff.mp h
      obtain ⟨bs, hbs, h⟩ := Option.bind_eq_some_iff.mp h
      cases h
      exact ⟨b, bs, hb, ih.mp hbs, rfl⟩
    · rintro ⟨b, bs, hb, hbs, rfl⟩
      rw [hb, ih.mpr hbs]
      rfl

/-- A list is read from an array of documents that show its elements. -/
theorem list?_eq_some_iff {read : Json → Option α} {Shown : α → Json → Prop} {l : List α}
    (hv : Formed v) (hread : ∀ {w a}, Formed w → (read w = some a ↔ Shown a w)) :
    list? read v = some l ↔ ∃ docs, v = .array docs ∧ List.Forall₂ Shown l docs := by
  constructor
  · intro h
    cases v with
    | array docs =>
      have hdocs := (List.forall₂_and_left docs _).mpr ⟨fun _ => hv.element, mapM_eq_some_iff.mp h⟩
      refine ⟨docs, rfl, .flip (hdocs.imp ?_)⟩
      rintro w a ⟨hw, ha⟩
      exact (hread hw).mp ha
    | _ => cases h
  · rintro ⟨docs, rfl, h⟩
    have hdocs := (List.forall₂_and_left docs _).mpr ⟨fun _ => hv.element, h.flip⟩
    refine mapM_eq_some_iff.mpr (hdocs.imp ?_)
    rintro w a ⟨hw, ha⟩
    exact (hread hw).mpr ha

/-! ### Records -/

/-- The members that are written for a list of fields. -/
def written (fields : List (String × Option Json)) : List (String × Json) :=
  fields.filterMap fun f => f.2.map (f.1, ·)

/-- The documents that show the fields of a record: objects that have the fields that are there as
members, and any other members, in any order; and arrays of the fields in their order, some absent
ones at the end left out. -/
inductive Shows (fields : List (String × Option Json)) : Json → Prop where
  | object {members others : List (String × Json)}
      (hothers : ∀ m ∈ others, m.1 ∉ fields.map Prod.fst)
      (hperm : members.Perm (written fields ++ others)) : Shows fields (.record members)
  | array {elements : List Json} (missing : Nat)
      (helements : fields.map Prod.snd = elements.map some ++ List.replicate missing none) :
      Shows fields (.array elements)

theorem shows_written (fields : List (String × Option Json)) :
    Shows fields (.record (written fields)) :=
  @Shows.object fields _ [] (by simp) (by simp)

theorem written_append (l l' : List (String × Option Json)) :
    written (l ++ l') = written l ++ written l' :=
  List.filterMap_append

theorem memberIfPresent_eq (name : String) (write : α → Json) (value : Option α) :
    memberIfPresent name write value = written [(name, value.map write)] := by
  cases value <;> rfl

theorem members?_eq_some_iff {members : List (String × Json)} :
    members? v = some members ↔ v = record members := by
  have hname (m : Option String × Json) (named : String × Json) :
      m.1.map (·, m.2) = some named ↔ m = (some named.1, named.2) := by
    obtain ⟨key, w⟩ := m
    cases key <;> simp [Prod.ext_iff]
  have hall (ms : List (Option String × Json)) :
      ms.mapM (fun m => m.1.map (·, m.2)) = some members
        ↔ ms = members.map fun m => (some m.1, m.2) := by
    simp only [mapM_eq_some_iff, hname]
    rw [← List.forall₂_map_right_iff, List.forall₂_eq_eq_eq]
  constructor
  · intro h
    cases v with
    | object ms => exact congrArg Json.object ((hall ms).mp h)
    | _ => cases h
  · rintro rfl
    exact (hall _).mpr rfl

theorem filter_written (fields : List (String × Option Json)) (name : String) :
    (written fields).filter (fun m => m.1 = name)
      = written (fields.filter fun f => f.1 = name) := by
  induction fields with
  | nil => rfl
  | cons f rest ih =>
    obtain ⟨key, value⟩ := f
    have hcons (l : List (String × Option Json)) :
        written ((key, value) :: l) = written [(key, value)] ++ written l :=
      written_append [(key, value)] l
    rw [hcons, List.filter_append, ih, List.filter_cons]
    by_cases h : key = name
    · rw [if_pos (by simp [h]), hcons]
      cases value <;> simp [written, h]
    · rw [if_neg (by simp [h])]
      cases value <;> simp [written, h]

theorem single?_written {fields : List (String × Option Json)}
    (hfields : (fields.map Prod.fst).Nodup) {name : String} {value : Option Json}
    (h : (name, value) ∈ fields) : single? (written fields) name = some value := by
  -- as no two fields have one name, asking for a name leaves one field
  have hfilter : fields.filter (fun f => f.1 = name) = [(name, value)] := by
    induction fields with
    | nil => exact absurd h List.not_mem_nil
    | cons f rest ih =>
      rw [List.map_cons, List.nodup_cons] at hfields
      have hnone {key : String} (hkey : key ∉ rest.map Prod.fst) :
          rest.filter (fun f => f.1 = key) = [] := by
        rw [List.filter_eq_nil_iff]
        intro g hg heq
        refine hkey ?_
        rw [← of_decide_eq_true heq]
        exact List.mem_map_of_mem hg
      rcases List.mem_cons.mp h with rfl | h
      · rw [List.filter_cons_of_pos (by simp), hnone hfields.1]
      · have hne : f.1 ≠ name := by
          intro heq
          refine hfields.1 ?_
          rw [heq]
          exact List.mem_map_of_mem (f := Prod.fst) h
        rw [List.filter_cons_of_neg (by simp [hne]), ih hfields.2 h]
  rw [single?, filter_written, hfilter]
  cases value <;> rfl

/-- What stands under a name does not depend on the order of the members. -/
theorem single?_perm {members members' : List (String × Json)} (h : members.Perm members')
    (name : String) : single? members name = single? members' name := by
  have hfilter := h.filter fun m => m.1 = name
  rw [single?, single?]
  generalize members.filter (fun m => m.1 = name) = l at hfilter ⊢
  generalize members'.filter (fun m => m.1 = name) = l' at hfilter ⊢
  match l' with
  | [] => rw [List.perm_nil.mp hfilter]
  | [m] => rw [List.perm_singleton.mp hfilter]
  | m :: n :: rest =>
    -- there are several members on either side
    have hlength := hfilter.length_eq
    match l with
    | [] => simp at hlength
    | [m'] => simp at hlength
    | m' :: n' :: rest' => rfl

/-- What stands under a name does not depend on members with other names. -/
theorem single?_append_others {members others : List (String × Json)} {name : String}
    (h : ∀ m ∈ others, m.1 ≠ name) : single? (members ++ others) name = single? members name := by
  have hnone : others.filter (fun m => m.1 = name) = [] :=
    List.filter_eq_nil_iff.mpr fun m hm => by simpa using h m hm
  rw [single?, single?, List.filter_append, hnone, List.append_nil]

/-- The members under a name are what is found there. -/
theorem filter_eq_of_single? {members : List (String × Json)} {name : String}
    {value : Option Json} (h : single? members name = some value) :
    members.filter (fun m => m.1 = name) = written [(name, value)] := by
  have hname : ∀ m ∈ members.filter (fun m => m.1 = name), m.1 = name := fun m hm =>
    of_decide_eq_true (List.mem_filter.mp hm).2
  rw [single?] at h
  generalize members.filter (fun m => m.1 = name) = l at h hname
  match l with
  | [] =>
    cases h
    rfl
  | [m] =>
    cases h
    rw [← hname m (List.mem_singleton.mpr rfl)]
    rfl
  | _ :: _ :: _ => cases h

/-- Members consist of those that are found under some names, and others. -/
theorem exists_perm_of_single? {fields : List (String × Option Json)}
    {members : List (String × Json)} (hfields : (fields.map Prod.fst).Nodup)
    (h : ∀ f ∈ fields, single? members f.1 = some f.2) :
    ∃ others : List (String × Json), (∀ m ∈ others, m.1 ∉ fields.map Prod.fst)
      ∧ members.Perm (written fields ++ others) := by
  induction fields generalizing members with
  | nil => exact ⟨members, by simp, .refl _⟩
  | cons f rest ih =>
    rw [List.map_cons, List.nodup_cons] at hfields
    have hfound := filter_eq_of_single? (h f List.mem_cons_self)
    have hperm := List.filter_append_perm (fun m => m.1 = f.1) members
    rw [hfound] at hperm
    -- what is found under the other names does not change if these members are left out
    have hrest : ∀ g ∈ rest, single? (members.filter fun m => !decide (m.1 = f.1)) g.1 = some g.2 := by
      intro g hg
      have hne : ∀ m ∈ written [f], m.1 ≠ g.1 := by
        intro m hm heq
        rw [← hfound] at hm
        refine hfields.1 ?_
        rw [← of_decide_eq_true (List.mem_filter.mp hm).2, heq]
        exact List.mem_map_of_mem hg
      rw [← single?_append_others hne, single?_perm List.perm_append_comm, single?_perm hperm]
      exact h g (List.mem_cons_of_mem f hg)
    obtain ⟨others, hothers, hperm'⟩ := ih hfields.2 hrest
    refine ⟨others, fun m hm => ?_, ?_⟩
    · have hm' := hperm'.mem_iff.mpr (List.mem_append_right _ hm)
      have hne : m.1 ≠ f.1 := by simpa using (List.mem_filter.mp hm').2
      rw [List.map_cons, List.mem_cons, not_or]
      exact ⟨hne, hothers m hm⟩
    · have happend : written (f :: rest) = written [f] ++ written rest := written_append [f] rest
      rw [happend, List.append_assoc]
      exact hperm.symm.trans (hperm'.append_left _)

/-- In the documents that show the fields of a record a field is found under its name, and an absent
one is found to be absent; and in no others. -/
theorem fields?_eq_some_iff {fields : List (String × Option Json)}
    (hfields : (fields.map Prod.fst).Nodup) :
    fields? (fields.map Prod.fst) v = some (fields.map Prod.snd) ↔ Shows fields v := by
  have hall (members : List (String × Json)) :
      (fields.map Prod.fst).mapM (single? members) = some (fields.map Prod.snd)
        ↔ ∀ f ∈ fields, single? members f.1 = some f.2 := by
    rw [mapM_eq_some_iff, List.forall₂_map_left_iff, List.forall₂_map_right_iff, List.forall₂_same]
  constructor
  · intro h
    cases v with
    | object ms =>
      obtain ⟨members, hmembers, hsingle⟩ := Option.bind_eq_some_iff.mp h
      obtain ⟨others, hothers, hperm⟩ := exists_perm_of_single? hfields ((hall members).mp hsingle)
      rw [members?_eq_some_iff.mp hmembers]
      exact .object hothers hperm
    | array elements =>
      rw [fields?] at h
      by_cases hlength : elements.length ≤ (fields.map Prod.fst).length
      · rw [if_pos hlength] at h
        exact .array _ (Option.some_inj.mp h).symm
      · rw [if_neg hlength] at h
        cases h
    | _ => cases h
  · intro h
    cases h with
    | @object members others hothers hperm =>
      show ((record members).members?).bind _ = _
      rw [members?_eq_some_iff.mpr rfl, Option.bind_some, hall]
      intro f hf
      have hname : ∀ m ∈ others, m.1 ≠ f.1 := by
        intro m hm heq
        exact hothers m hm (heq ▸ List.mem_map_of_mem hf)
      rw [single?_perm hperm, single?_append_others hname]
      exact single?_written hfields hf
    | @array elements missing helements =>
      have hlength := congrArg List.length helements
      simp only [List.length_map, List.length_append, List.length_replicate] at hlength
      rw [fields?, if_pos (by simp; omega), helements, List.length_map, hlength,
        Nat.add_sub_cancel_left]

/-- Every field of a written record is found under its name, and an absent one is found to be
absent. -/
theorem fields?_written {fields : List (String × Option Json)}
    (hfields : (fields.map Prod.fst).Nodup) :
    fields? (fields.map Prod.fst) (record (written fields)) = some (fields.map Prod.snd) :=
  (fields?_eq_some_iff hfields).mpr (shows_written fields)

/-- What stands in a field of a document is formed as the document is. -/
theorem Shows.formed {fields : List (String × Option Json)} (h : Shows fields v) (hv : Formed v)
    {name : String} {w : Json} (hw : (name, some w) ∈ fields) : Formed w := by
  cases h with
  | object hothers hperm =>
    have hwritten : (name, w) ∈ written fields := List.mem_filterMap.mpr ⟨_, hw, rfl⟩
    exact hv.member (hperm.mem_iff.mpr (List.mem_append_left _ hwritten))
  | array missing helements =>
    have hmem : some w ∈ fields.map Prod.snd := List.mem_map_of_mem hw
    rw [helements, List.mem_append, List.mem_map] at hmem
    rcases hmem with ⟨u, hu, heq⟩ | hmem
    · cases heq
      exact hv.element hu
    · cases List.eq_of_mem_replicate hmem

theorem plain_written {fields : List (String × Option Json)}
    (h : ∀ f ∈ fields, ∀ v ∈ f.2, Plain v) : Plain (record (written fields)) := by
  refine plain_record fun m hm => ?_
  obtain ⟨f, hf, heq⟩ := List.mem_filterMap.mp hm
  obtain ⟨v, hv, rfl⟩ := Option.map_eq_some_iff.mp heq
  exact h f hf v hv

/-! ### Single fields -/

/-- How a field shows a value that may be absent: an absent one is left out or `null`. -/
inductive ShowsOptional (write : α → Json) : Option α → Option Json → Prop where
  | present (a : α) : ShowsOptional write (some a) (some (write a))
  | null : ShowsOptional write none (some .null)
  | omitted : ShowsOptional write none none

theorem showsOptional_map (write : α → Json) (value : Option α) :
    ShowsOptional write value (value.map write) := by
  cases value with
  | none => exact .omitted
  | some a => exact .present a

theorem ofText_ne_null (s : String) : ofText s ≠ .null := Json.noConfusion

theorem optional?_eq_some_iff {read : Json → Option α} {write : α → Json}
    (hread : ∀ {v a}, read v = some a ↔ v = write a) (hnull : ∀ a, write a ≠ .null)
    {value : Option α} {field : Option Json} :
    optional? read field = some value ↔ ShowsOptional write value field := by
  have hpresent {v : Json} (hv : v ≠ .null) :
      optional? read (some v) = (read v).map some := by
    rw [optional?]
    exact hv
  constructor
  · intro h
    match field with
    | none =>
      cases h
      exact .omitted
    | some v =>
      by_cases hv : v = .null
      · rw [hv] at h ⊢
        cases h
        exact .null
      · rw [hpresent hv] at h
        obtain ⟨a, ha, rfl⟩ := Option.map_eq_some_iff.mp h
        rw [hread.mp ha]
        exact .present a
  · intro h
    cases h with
    | present a => rw [hpresent (hnull a), hread.mpr rfl, Option.map_some]
    | null => rfl
    | omitted => rfl

theorem optional?_text?_iff {value : Option String} {field : Option Json} :
    optional? text? field = some value ↔ ShowsOptional ofText value field :=
  optional?_eq_some_iff text?_eq_some_iff ofText_ne_null

/-- How a truth value is shown that is false by default. -/
inductive ShowsFlag : Bool → Option Json → Prop where
  | written (b : Bool) : ShowsFlag b (some (.bool b))
  | omitted : ShowsFlag false none

theorem defaulted?_eq_some_iff {b : Bool} {field : Option Json} :
    defaulted? false bool? field = some b ↔ ShowsFlag b field := by
  constructor
  · intro h
    match field with
    | none =>
      cases h
      exact .omitted
    | some v =>
      cases v <;> cases h
      exact .written b
  · intro h
    cases h <;> rfl

/-- How the value of an enumeration is shown. -/
inductive ShowsVariant (name : String) : Json → Prop where
  | name : ShowsVariant name (.ofText name)
  | object : ShowsVariant name (.record [(name, .null)])

theorem variant?_eq_some_iff {name : String} : variant? v = some name ↔ ShowsVariant name v := by
  constructor
  · intro h
    unfold variant? at h
    split at h
    · rw [h]
      exact .name
    · rw [h]
      exact .object
    · cases h
  · intro h
    cases h <;> rfl

end RpmProvision.Json
