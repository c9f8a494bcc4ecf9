/-
A written document is read back.

* **`run_tokens`** — the reader takes the tokens of a document as one value;
* **`read?_spread`** — a document is read from every text that its tokens are laid out as;
* **`read?_line`** — a plain document is read back from its lines.
-/
import RpmProvision.Json.Reader
import RpmProvision.Proofs.Json.Lexer

namespace RpmProvision.Json

/-! ### The reader -/

namespace ReaderState

/-- In an array that has just been opened a value may begin as anywhere else. -/
theorem run_elementOrEnd (v : Json) (frames : List Frame) (ts : List Token) :
    run (.elementOrEnd frames) (v.tokens ++ ts)
      = run (.value (.element [] :: frames)) (v.tokens ++ ts) := by
  cases v <;> rfl

-- The frames stay arbitrary, as the reader is inside of them when it comes to an element or a member.
mutual

/-- The reader takes the tokens of a document as one value. -/
theorem run_tokens (v : Json) (frames : List Frame) (ts : List Token) :
    run (.value frames) (v.tokens ++ ts) = run (.ended v frames) ts := by
  match v with
  | .null => rfl
  | .bool _ => rfl
  | .number _ => rfl
  | .string _ => rfl
  | .array [] => rfl
  | .array (e :: rest) =>
    show run (.elementOrEnd frames) (e.tokens ++ elementTokens false rest ++ ts) = _
    rw [List.append_assoc, run_elementOrEnd, run_tokens e, run_elementTokens rest]
    rfl
  | .object [] => rfl
  | .object ((key, e) :: rest) =>
    show run (.value (.member [] key :: frames)) (e.tokens ++ memberTokens false rest ++ ts) = _
    rw [List.append_assoc, run_tokens e, run_memberTokens rest]
    rfl

/-- Behind an element the reader takes the other elements. -/
theorem run_elementTokens (rest : List Json) (v : Json) (before : List Json) (frames : List Frame)
    (ts : List Token) :
    run (.ended v (.element before :: frames)) (elementTokens false rest ++ ts)
      = run (.ended (.array ((v :: before).reverse ++ rest)) frames) ts := by
  match rest with
  | [] =>
    rw [List.append_nil]
    rfl
  | e :: rest =>
    show run (.value (.element (v :: before) :: frames))
      (e.tokens ++ elementTokens false rest ++ ts) = _
    rw [List.append_assoc, run_tokens e, run_elementTokens rest, List.reverse_cons,
      List.append_assoc, List.singleton_append]

/-- Behind a member the reader takes the other members. -/
theorem run_memberTokens (rest : List (Option String × Json)) (key : Option String) (v : Json)
    (before : List (Option String × Json)) (frames : List Frame) (ts : List Token) :
    run (.ended v (.member before key :: frames)) (memberTokens false rest ++ ts)
      = run (.ended (.object (((key, v) :: before).reverse ++ rest)) frames) ts := by
  match rest with
  | [] =>
    rw [List.append_nil]
    rfl
  | (key', e) :: rest =>
    show run (.value (.member ((key, v) :: before) key' :: frames))
      (e.tokens ++ memberTokens false rest ++ ts) = _
    rw [List.append_assoc, run_tokens e, run_memberTokens rest, List.reverse_cons,
      List.append_assoc, List.singleton_append]

end

end ReaderState

theorem ofTokens?_tokens (v : Json) : ofTokens? v.tokens = some v := by
  have h := ReaderState.run_tokens v [] []
  rw [List.append_nil] at h
  rw [ofTokens?, h]
  rfl

/-! ### Plain documents -/

/-- The numbers of the document are written by the digits of natural numbers, and its strings are
texts. -/
def Plain (v : Json) : Prop := ∀ t ∈ v.tokens, t.Plain

theorem plain_natural (n : Nat) : Plain (natural n) := by
  intro t ht
  rw [List.mem_singleton.mp ht]
  exact ⟨n, rfl⟩

theorem plain_ofText (s : String) : Plain (ofText s) := by
  intro t ht
  rw [List.mem_singleton.mp ht]
  rfl

theorem plain_bool (b : Bool) : Plain (.bool b) := by
  intro t ht
  rw [List.mem_singleton.mp ht]
  trivial

theorem plain_elementTokens {es : List Json} (h : ∀ v ∈ es, Plain v) (first : Bool) :
    ∀ t ∈ elementTokens first es, t.Plain := by
  induction es generalizing first with
  | nil =>
    intro t ht
    rw [List.mem_singleton.mp ht]
    trivial
  | cons v rest ih =>
    intro t ht
    rw [elementTokens, List.mem_append, List.mem_append] at ht
    rcases ht with (ht | ht) | ht
    · cases first with
      | true => exact absurd ht List.not_mem_nil
      | false =>
        rw [List.mem_singleton.mp ht]
        trivial
    · exact h v List.mem_cons_self t ht
    · exact ih (fun w hw => h w (List.mem_cons_of_mem v hw)) false t ht

theorem plain_array {es : List Json} (h : ∀ v ∈ es, Plain v) : Plain (.array es) := by
  intro t ht
  rcases List.mem_cons.mp ht with rfl | ht
  · trivial
  · exact plain_elementTokens h true t ht

theorem plain_memberTokens {ms : List (String × Json)} (h : ∀ m ∈ ms, Plain m.2) (first : Bool) :
    ∀ t ∈ memberTokens first (ms.map fun m => (some m.1, m.2)), t.Plain := by
  induction ms generalizing first with
  | nil =>
    intro t ht
    rw [List.mem_singleton.mp ht]
    trivial
  | cons m rest ih =>
    intro t ht
    rw [List.map_cons, memberTokens, List.mem_append, List.mem_append] at ht
    rcases ht with (ht | ht) | ht
    · cases first with
      | true => exact absurd ht List.not_mem_nil
      | false =>
        rw [List.mem_singleton.mp ht]
        trivial
    · rcases List.mem_cons.mp ht with rfl | ht
      · rfl
      rcases List.mem_cons.mp ht with rfl | ht
      · trivial
      · exact h m List.mem_cons_self t ht
    · exact ih (fun w hw => h w (List.mem_cons_of_mem m hw)) false t ht

theorem plain_record {ms : List (String × Json)} (h : ∀ m ∈ ms, Plain m.2) :
    Plain (record ms) := by
  intro t ht
  rcases List.mem_cons.mp ht with rfl | ht
  · trivial
  · exact plain_memberTokens h true t ht

/-! ### Documents as texts -/

/-- The tokens begin with one that stands between values, or there are none. -/
def Closed (ts : List Token) : Prop := ∀ t ∈ ts.head?, t.separates

theorem spaced_cons {t : Token} {ts : List Token} (h : ∀ numeral, t ≠ .number numeral) :
    spaced (t :: ts) = spaced ts := by
  cases t with
  | number numeral => exact absurd rfl (h numeral)
  | _ => cases ts <;> rfl

-- What follows a document has to be known for a number that ends it.
mutual

/-- The tokens of a document have no number beside a value. -/
theorem spaced_tokens (v : Json) {ts : List Token} (hts : Closed ts) :
    spaced (v.tokens ++ ts) = spaced ts := by
  match v with
  | .null => exact spaced_cons (by simp)
  | .bool _ => exact spaced_cons (by simp)
  | .string _ => exact spaced_cons (by simp)
  | .number _ =>
    cases ts with
    | nil => rfl
    | cons t rest =>
      show (t.separates && spaced (t :: rest)) = _
      rw [hts t rfl, Bool.true_and]
  | .array [] =>
    exact (spaced_cons (by simp)).trans (spaced_cons (by simp))
  | .array (e :: rest) =>
    show spaced (.openArray :: (e.tokens ++ elementTokens false rest ++ ts)) = _
    rw [spaced_cons (by simp), List.append_assoc]
    obtain ⟨hspaced, hclosed⟩ := spaced_elementTokens rest hts
    rw [spaced_tokens e hclosed, hspaced]
  | .object [] =>
    exact (spaced_cons (by simp)).trans (spaced_cons (by simp))
  | .object ((key, e) :: rest) =>
    show spaced (.openObject :: .string key :: .colon ::
      (e.tokens ++ memberTokens false rest ++ ts)) = _
    rw [spaced_cons (by simp), spaced_cons (by simp), spaced_cons (by simp), List.append_assoc]
    obtain ⟨hspaced, hclosed⟩ := spaced_memberTokens rest hts
    rw [spaced_tokens e hclosed, hspaced]

theorem spaced_elementTokens (rest : List Json) {ts : List Token} (hts : Closed ts) :
    spaced (elementTokens false rest ++ ts) = spaced ts
      ∧ Closed (elementTokens false rest ++ ts) := by
  match rest with
  | [] =>
    exact ⟨spaced_cons (by simp), fun t ht => by cases ht; rfl⟩
  | e :: rest =>
    obtain ⟨hspaced, hclosed⟩ := spaced_elementTokens rest hts
    refine ⟨?_, fun t ht => by cases ht; rfl⟩
    show spaced (.comma :: (e.tokens ++ elementTokens false rest ++ ts)) = _
    rw [spaced_cons (by simp), List.append_assoc, spaced_tokens e hclosed, hspaced]

theorem spaced_memberTokens (rest : List (Option String × Json)) {ts : List Token}
    (hts : Closed ts) : spaced (memberTokens false rest ++ ts) = spaced ts
      ∧ Closed (memberTokens false rest ++ ts) := by
  match rest with
  | [] =>
    exact ⟨spaced_cons (by simp), fun t ht => by cases ht; rfl⟩
  | (key, e) :: rest =>
    obtain ⟨hspaced, hclosed⟩ := spaced_memberTokens rest hts
    refine ⟨?_, fun t ht => by cases ht; rfl⟩
    show spaced (.comma :: .string key :: .colon :: (e.tokens ++ memberTokens false rest ++ ts)) = _
    rw [spaced_cons (by simp), spaced_cons (by simp), spaced_cons (by simp), List.append_assoc,
      spaced_tokens e hclosed, hspaced]

end

/-- A document is read from every text that its tokens are laid out as. -/
theorem read?_spread {v : Json} {text : String} (h : Spread v.tokens text.toList) :
    read? text = some v := by
  have hspaced := @spaced_tokens v [] fun t ht => absurd ht (by simp)
  rw [List.append_nil] at hspaced
  rw [read?, tokens?_spread hspaced h]
  exact ofTokens?_tokens v

/-- A plain document is laid out on its lines, also with white space behind them. -/
theorem spread_indented {v : Json} (hv : Plain v) {tail : String}
    (htail : ∀ c ∈ tail.toList, isWhite c) : Spread v.tokens (v.indented ++ tail).toList := by
  rw [String.toList_append, indented, String.toList_ofList]
  exact spread_layOut htail hv 0 false

/-- A plain document is laid out by a text that ends its last line. -/
theorem spread_line {v : Json} (hv : Plain v) : Spread v.tokens (v.indented ++ "\n").toList := by
  refine spread_indented hv fun c hc => ?_
  rw [List.mem_singleton.mp hc]
  decide

/-- A plain document is laid out without white space. -/
theorem spread_compact {v : Json} (hv : Plain v) : Spread v.tokens v.compact.toList := by
  rw [compact, String.toList_ofList]
  exact spread_write hv

/-- A plain document is read back from a text that ends its last line. -/
theorem read?_line {v : Json} (hv : Plain v) : read? (v.indented ++ "\n") = some v :=
  read?_spread (spread_line hv)

end RpmProvision.Json
