/-
The texts that a document is read from.

What is read from a text is what the text lays out: nothing is read from a text that is not one of the
texts of a document. Every scanner leaves behind what spells its token. The reader is told in every
state by the tokens that it has taken, so that a document that it has completed is known by them.

* **`spread_of_tokens?`** — a text lays out the tokens that are read from it;
* **`ReaderState.taken`** — the tokens that lead to a state of the reader;
* **`tokens_of_ofTokens?`** — a document is read from its own tokens only;
* **`read?_eq_some_iff`** — a document is read from its texts and from no others;
* **`Formed`** — so its numbers are written as numbers, and a natural number in one way only
  (**`toDigits_ofDigitChars`**).
-/
import RpmProvision.Proofs.Json.Reader

namespace RpmProvision.Json

/-! ### Strings -/

/-- The characters that a string is read from spell its parts. -/
theorem spells_of_scanString {cs rest : List Char} {parts : List StringPart}
    (h : scanString cs = some (parts, rest)) :
    ∃ body, SpellsParts parts body ∧ cs = body ++ '"' :: rest := by
  -- a part that is read stands before the parts that are read behind it
  have hcons {part : StringPart} {parts : List StringPart} {cs after : List Char}
      (hpart : part.Spells cs) (ih : ∃ body, SpellsParts parts body ∧ after = body ++ '"' :: rest) :
      ∃ body, SpellsParts (part :: parts) body ∧ cs ++ after = body ++ '"' :: rest := by
    obtain ⟨body, hparts, rfl⟩ := ih
    exact ⟨cs ++ body, .cons hpart hparts, (List.append_assoc ..).symm⟩
  fun_induction scanString cs generalizing parts with
  | case2 after =>
    cases h
    exact ⟨[], .nil, rfl⟩
  | case3 a b c d after n parts' after' hscan hunit ih =>
    cases h
    exact hcons (.codeUnit hunit) (ih hscan)
  | case5 e after _ c parts' after' hscan hshort ih =>
    cases h
    exact hcons (.short hshort) (ih hscan)
  | case8 c after hquote _ _ hchar parts' after' hscan ih =>
    cases h
    rw [not_or] at hchar
    exact hcons (.plain (fun hc => hquote hc) hchar.2 (by omega)) (ih hscan)
  | case1 | case4 | case6 | case7 | case9 => cases h

/-! ### Numbers -/

theorem eq_of_scanDigits {cs ds rest : List Char} (h : scanDigits cs = (ds, rest)) :
    cs = ds ++ rest ∧ ∀ d ∈ ds, d.isDigit := by
  cases h
  exact ⟨List.takeWhile_append_dropWhile.symm, List.all_eq_true.mp List.all_takeWhile⟩

theorem isInteger_of_scanInteger {cs integer rest : List Char}
    (h : scanInteger cs = some (integer, rest)) : IsInteger integer ∧ cs = integer ++ rest := by
  cases cs with
  | nil => cases h
  | cons c cs =>
    rw [scanInteger] at h
    by_cases hzero : c = '0'
    · rw [if_pos hzero] at h
      cases h
      exact ⟨.zero, by rw [hzero]; rfl⟩
    · rw [if_neg hzero] at h
      by_cases hc : c.isDigit
      · rw [if_pos hc] at h
        cases h
        obtain ⟨heq, hds⟩ := @eq_of_scanDigits cs _ _ rfl
        exact ⟨.digits hc hzero hds, congrArg (c :: ·) heq⟩
      · rw [if_neg hc] at h
        cases h

theorem isFraction_of_scanFraction {cs fraction rest : List Char}
    (h : scanFraction cs = some (fraction, rest)) : IsFraction fraction ∧ cs = fraction ++ rest := by
  unfold scanFraction at h
  split at h
  · next cs =>
    split at h
    · cases h
    · next hne hscan =>
      cases h
      obtain ⟨rfl, hds⟩ := eq_of_scanDigits hscan
      exact ⟨.present (fun hnil => hne hnil) hds, rfl⟩
  · cases h
    exact ⟨.absent, rfl⟩

theorem eq_of_scanSign (cs : List Char) :
    ((scanSign cs).1 = [] ∨ (scanSign cs).1 = ['+'] ∨ (scanSign cs).1 = ['-'])
      ∧ cs = (scanSign cs).1 ++ (scanSign cs).2 := by
  unfold scanSign
  split
  · exact ⟨.inr (.inl rfl), rfl⟩
  · exact ⟨.inr (.inr rfl), rfl⟩
  · exact ⟨.inl rfl, rfl⟩

theorem isExponent_of_scanExponent {cs exponent rest : List Char}
    (h : scanExponent cs = some (exponent, rest)) : IsExponent exponent ∧ cs = exponent ++ rest := by
  cases cs with
  | nil =>
    cases h
    exact ⟨.absent, rfl⟩
  | cons c cs =>
    rw [scanExponent] at h
    by_cases hmark : c = 'e' ∨ c = 'E'
    · rw [if_pos hmark] at h
      split at h
      · cases h
      · next hne hscan =>
        cases h
        obtain ⟨hsign, hcs⟩ := eq_of_scanSign cs
        obtain ⟨heq, hds⟩ := eq_of_scanDigits hscan
        refine ⟨.present hmark hsign (fun hnil => hne hnil) hds, ?_⟩
        rw [heq] at hcs
        rw [List.append_assoc, List.cons_append, ← hcs]
    · rw [if_neg hmark] at h
      cases h
      exact ⟨.absent, rfl⟩

theorem exists_of_scanUnsigned {cs numeral rest : List Char}
    (h : scanUnsigned cs = some (numeral, rest)) :
    ∃ integer fraction exponent, IsInteger integer ∧ IsFraction fraction ∧ IsExponent exponent
      ∧ numeral = integer ++ fraction ++ exponent ∧ cs = numeral ++ rest := by
  rw [scanUnsigned] at h
  split at h
  · cases h
  next integer cs₁ hscan₁ =>
  split at h
  · cases h
  next fraction cs₂ hscan₂ =>
  split at h
  · cases h
  next exponent cs₃ hscan₃ =>
  cases h
  obtain ⟨hinteger, rfl⟩ := isInteger_of_scanInteger hscan₁
  obtain ⟨hfraction, rfl⟩ := isFraction_of_scanFraction hscan₂
  obtain ⟨hexponent, rfl⟩ := isExponent_of_scanExponent hscan₃
  exact ⟨integer, fraction, exponent, hinteger, hfraction, hexponent, rfl, by simp⟩

/-- The characters that a number is read from are its numeral. -/
theorem isNumeral_of_scanNumber {cs numeral rest : List Char}
    (h : scanNumber cs = some (numeral, rest)) : IsNumeral numeral ∧ cs = numeral ++ rest := by
  unfold scanNumber at h
  split at h
  · obtain ⟨⟨unsigned, rest'⟩, hunsigned, heq⟩ := Option.map_eq_some_iff.mp h
    cases heq
    obtain ⟨integer, fraction, exponent, hinteger, hfraction, hexponent, rfl, rfl⟩ :=
      exists_of_scanUnsigned hunsigned
    exact ⟨.negative hinteger hfraction hexponent, rfl⟩
  · obtain ⟨integer, fraction, exponent, hinteger, hfraction, hexponent, rfl, rfl⟩ :=
      exists_of_scanUnsigned h
    exact ⟨.positive hinteger hfraction hexponent, rfl⟩

/-! ### Tokens -/

theorem eq_of_afterWord? {word cs rest : List Char} (h : afterWord? word cs = some rest) :
    cs = word ++ rest := by
  rw [afterWord?] at h
  by_cases hword : word.isPrefixOf cs
  · rw [if_pos hword] at h
    cases h
    exact (List.prefix_iff_eq_append.mp (List.isPrefixOf_iff_prefix.mp hword)).symm
  · rw [if_neg hword] at h
    cases h

/-- The characters that a token is read from spell the token. -/
theorem spells_of_scanToken {cs rest : List Char} {t : Token} (h : scanToken cs = some (t, rest)) :
    ∃ front, t.Spells front ∧ cs = front ++ rest := by
  -- a word behind its first letter
  have hword {t : Token} {first : Char} {word cs : List Char} {p : Token × List Char}
      (hspells : t.Spells (first :: word))
      (hp : (afterWord? word cs).map (t, ·) = some p) :
      ∃ front, p.1.Spells front ∧ first :: cs = front ++ p.2 := by
    obtain ⟨rest, hrest, rfl⟩ := Option.map_eq_some_iff.mp hp
    exact ⟨first :: word, hspells, congrArg (first :: ·) (eq_of_afterWord? hrest)⟩
  unfold scanToken at h
  split at h
  case h_1 => cases h
  case h_2 | h_3 | h_4 | h_5 | h_6 | h_7 =>
    cases h
    exact ⟨_, rfl, rfl⟩
  case h_8 =>
    obtain ⟨⟨parts, rest'⟩, hscan, heq⟩ := Option.map_eq_some_iff.mp h
    cases heq
    obtain ⟨body, hparts, rfl⟩ := spells_of_scanString hscan
    exact ⟨_, ⟨parts, body, hparts, rfl, rfl⟩, by simp⟩
  case h_9 => exact @hword .null _ _ _ _ rfl h
  case h_10 => exact @hword (.bool true) _ _ _ _ rfl h
  case h_11 => exact @hword (.bool false) _ _ _ _ rfl h
  case h_12 =>
    obtain ⟨⟨numeral, rest'⟩, hscan, heq⟩ := Option.map_eq_some_iff.mp h
    cases heq
    obtain ⟨hnumeral, rfl⟩ := isNumeral_of_scanNumber hscan
    exact ⟨numeral, ⟨rfl, hnumeral⟩, rfl⟩

/-- A text lays out the tokens that are read from it. -/
theorem spread_of_tokens? {cs : List Char} {ts : List Token} (h : tokens? cs = some ts) :
    Spread ts cs := by
  have hcut : cs = cs.takeWhile isWhite ++ cs.dropWhile isWhite :=
    List.takeWhile_append_dropWhile.symm
  have hwhite : ∀ c ∈ cs.takeWhile isWhite, isWhite c := List.all_eq_true.mp List.all_takeWhile
  fun_induction tokens? cs generalizing ts with
  | case1 cs hnil =>
    cases h
    rw [hnil, List.append_nil] at hcut
    rw [hcut]
    exact .done hwhite
  | case2 => cases h
  | case3 cs c rest hcons t after hscan ih =>
    obtain ⟨more, hmore, rfl⟩ := Option.map_eq_some_iff.mp h
    obtain ⟨front, hspells, heq⟩ := spells_of_scanToken hscan
    rw [hcut, hcons, heq]
    exact .token hwhite hspells
      (ih hmore List.takeWhile_append_dropWhile.symm (List.all_eq_true.mp List.all_takeWhile))

/-! ### The reader -/

/-- The tokens of elements that stand before another one. -/
def precedingElements (before : List Json) : List Token :=
  before.flatMap fun v => v.tokens ++ [.comma]

/-- The tokens of members that stand before another one. -/
def precedingMembers (before : List (Option String × Json)) : List Token :=
  before.flatMap fun m => memberToken m ++ [.comma]

theorem elementTokens_append (before : List Json) (v : Json) :
    elementTokens true (before ++ [v]) = precedingElements before ++ v.tokens ++ [.closeArray] := by
  have hcomma (w : Json) (rest : List Json) :
      elementTokens false (w :: rest) = .comma :: elementTokens true (w :: rest) := rfl
  induction before with
  | nil => rfl
  | cons w before ih =>
    obtain ⟨u, rest, hrest⟩ := List.exists_cons_of_ne_nil (List.append_ne_nil_of_right_ne_nil before
      (List.cons_ne_nil v []))
    show w.tokens ++ elementTokens false (before ++ [v]) = _
    rw [hrest, hcomma, ← hrest, ih, precedingElements, precedingElements, List.flatMap_cons]
    simp

theorem memberTokens_append (before : List (Option String × Json)) (m : Option String × Json) :
    memberTokens true (before ++ [m])
      = precedingMembers before ++ memberToken m ++ [.closeObject] := by
  have hcomma (w : Option String × Json) (rest : List (Option String × Json)) :
      memberTokens false (w :: rest) = .comma :: memberTokens true (w :: rest) := rfl
  induction before with
  | nil => rfl
  | cons w before ih =>
    obtain ⟨u, rest, hrest⟩ := List.exists_cons_of_ne_nil (List.append_ne_nil_of_right_ne_nil before
      (List.cons_ne_nil m []))
    show memberToken w ++ memberTokens false (before ++ [m]) = _
    rw [hrest, hcomma, ← hrest, ih, precedingMembers, precedingMembers, List.flatMap_cons]
    simp

/-- The tokens that an open array or object begins with. -/
def Frame.taken : Frame → List Token
  | .element before => .openArray :: precedingElements before.reverse
  | .member before key => .openObject :: precedingMembers before.reverse ++ [.string key, .colon]

/-- The tokens that open arrays and objects begin with, the innermost last. -/
def framesTaken (frames : List Frame) : List Token := frames.reverse.flatMap Frame.taken

theorem framesTaken_cons (f : Frame) (outer : List Frame) :
    framesTaken (f :: outer) = framesTaken outer ++ f.taken := by
  simp [framesTaken]

namespace ReaderState

/-- The tokens that lead to a state. -/
def taken : ReaderState → List Token
  | .value frames => framesTaken frames
  | .elementOrEnd frames => framesTaken frames ++ [.openArray]
  | .memberOrEnd frames => framesTaken frames ++ [.openObject]
  | .name before frames => framesTaken frames ++ .openObject :: precedingMembers before.reverse
  | .colon before key frames =>
    framesTaken frames ++ .openObject :: (precedingMembers before.reverse ++ [.string key])
  | .ended v frames => framesTaken frames ++ v.tokens

theorem taken_of_begin {t : Token} {frames : List Frame} {s : ReaderState}
    (h : begin t frames = some s) : s.taken = framesTaken frames ++ [t] := by
  cases t <;> cases h <;> rfl

theorem taken_of_proceed {t : Token} {v : Json} {frames : List Frame} {s : ReaderState}
    (h : proceed t v frames = some s) : s.taken = framesTaken frames ++ v.tokens ++ [t] := by
  match frames with
  | [] => cases h
  | .element before :: outer =>
    cases t with
    | comma =>
      cases h
      simp [taken, framesTaken_cons, Frame.taken, precedingElements]
    | closeArray =>
      cases h
      rw [taken, tokens, List.reverse_cons, elementTokens_append]
      simp [framesTaken_cons, Frame.taken]
    | _ => cases h
  | .member before key :: outer =>
    cases t with
    | comma =>
      cases h
      simp [taken, framesTaken_cons, Frame.taken, precedingMembers, memberToken]
    | closeObject =>
      cases h
      rw [taken, tokens, List.reverse_cons, memberTokens_append]
      simp [framesTaken_cons, Frame.taken, memberToken]
    | _ => cases h

/-- One token further, this token has been taken as well. -/
theorem taken_of_step {s s' : ReaderState} {t : Token} (h : step s t = some s') :
    s'.taken = s.taken ++ [t] := by
  unfold step at h
  split at h
  · exact taken_of_begin h
  · cases h
    simp [taken, tokens, elementTokens]
  · rw [taken_of_begin h]
    simp [taken, framesTaken_cons, Frame.taken, precedingElements]
  · cases h
    simp [taken, tokens, memberTokens]
  · cases h
    simp [taken, precedingMembers]
  · cases h
    simp [taken]
  · cases h
    simp [taken, framesTaken_cons, Frame.taken]
  · exact taken_of_proceed h
  · cases h

theorem taken_of_run {s s' : ReaderState} {ts : List Token} (h : run s ts = some s') :
    s'.taken = s.taken ++ ts := by
  induction ts generalizing s with
  | nil =>
    cases h
    exact (List.append_nil _).symm
  | cons t rest ih =>
    obtain ⟨s₁, hstep, hrest⟩ := Option.bind_eq_some_iff.mp h
    rw [ih hrest, taken_of_step hstep, List.append_assoc, List.singleton_append]

end ReaderState

/-- A document is read from its own tokens only. -/
theorem tokens_of_ofTokens? {ts : List Token} {v : Json} (h : ofTokens? ts = some v) :
    v.tokens = ts := by
  obtain ⟨s, hrun, hfinished⟩ := Option.bind_eq_some_iff.mp h
  have htaken := ReaderState.taken_of_run hrun
  match s with
  | .ended w [] =>
    cases hfinished
    exact htaken
  | .ended w (f :: outer) | .value _ | .elementOrEnd _ | .memberOrEnd _ | .name _ _ | .colon _ _ _ =>
    cases hfinished

/-- A document is read from the texts that its tokens are laid out as, and from no others. -/
theorem read?_eq_some_iff {text : String} {v : Json} :
    read? text = some v ↔ Spread v.tokens text.toList := by
  constructor
  · intro h
    obtain ⟨ts, htokens, hts⟩ := Option.bind_eq_some_iff.mp h
    rw [tokens_of_ofTokens? hts]
    exact spread_of_tokens? htokens
  · exact read?_spread

/-! ### Numbers in documents -/

/-- The numbers of the document are written as numbers; so they are if it is read from a text. -/
def Formed (v : Json) : Prop := ∀ numeral, .number numeral ∈ v.tokens → IsNumeral numeral

theorem isNumeral_of_spread {numeral : List Char} {ts : List Token} {cs : List Char}
    (h : Spread ts cs) (hmem : .number numeral ∈ ts) : IsNumeral numeral := by
  induction h with
  | done _ => exact absurd hmem List.not_mem_nil
  | token _ hspells _ ih =>
    rcases List.mem_cons.mp hmem with heq | hmem
    · subst heq
      exact hspells.2
    · exact ih hmem

theorem formed_of_spread {v : Json} {cs : List Char} (h : Spread v.tokens cs) : Formed v :=
  fun _ hmem => isNumeral_of_spread h hmem

theorem tokens_subset_elementTokens {v : Json} {es : List Json} (hv : v ∈ es) (first : Bool) :
    v.tokens ⊆ elementTokens first es := by
  induction es generalizing first with
  | nil => exact absurd hv List.not_mem_nil
  | cons w rest ih =>
    intro t ht
    rw [elementTokens, List.mem_append, List.mem_append]
    rcases List.mem_cons.mp hv with rfl | hv
    · exact .inl (.inr ht)
    · exact .inr (ih hv false ht)

theorem memberToken_subset_memberTokens {m : Option String × Json}
    {ms : List (Option String × Json)} (hm : m ∈ ms) (first : Bool) :
    memberToken m ⊆ memberTokens first ms := by
  induction ms generalizing first with
  | nil => exact absurd hm List.not_mem_nil
  | cons w rest ih =>
    intro t ht
    rw [memberTokens, List.mem_append, List.mem_append]
    rcases List.mem_cons.mp hm with rfl | hm
    · exact .inl (.inr ht)
    · exact .inr (ih hm false ht)

theorem Formed.element {es : List Json} (h : Formed (.array es)) {v : Json} (hv : v ∈ es) :
    Formed v := fun numeral hmem =>
  h numeral (List.mem_cons_of_mem _ (tokens_subset_elementTokens hv true hmem))

theorem Formed.member {ms : List (String × Json)} (h : Formed (record ms)) {m : String × Json}
    (hm : m ∈ ms) : Formed m.2 := by
  intro numeral hmem
  have hm' : (some m.1, m.2) ∈ ms.map fun m => (some m.1, m.2) := List.mem_map_of_mem hm
  refine h numeral (List.mem_cons_of_mem _ (memberToken_subset_memberTokens hm' true ?_))
  exact List.mem_cons_of_mem _ (List.mem_cons_of_mem _ hmem)

/-- A number of digits alone is an integer. -/
theorem isInteger_of_isDigit {numeral : List Char} (h : IsNumeral numeral)
    (hdigits : ∀ c ∈ numeral, c.isDigit) : IsInteger numeral := by
  cases h with
  | negative => exact absurd (hdigits '-' List.mem_cons_self) (by decide)
  | @positive integer fraction exponent hinteger hfraction hexponent =>
    cases hfraction with
    | present => exact absurd (hdigits '.' (by simp)) (by decide)
    | absent =>
      cases hexponent with
      | absent => simpa using hinteger
      | @present mark sign ds hmark =>
        have hdigit := hdigits mark (by simp)
        rcases hmark with rfl | rfl
        all_goals exact absurd hdigit (by decide)

theorem exists_digitChar {c : Char} (h : c.isDigit) : ∃ k < 10, c = Nat.digitChar k := by
  have hchar : ∀ k < 10, Char.ofNat (48 + k) = Nat.digitChar k := by decide
  obtain ⟨hlow, hhigh⟩ : 48 ≤ c.toNat ∧ c.toNat ≤ 57 := Char.isDigit_iff_toNat.mp h
  refine ⟨c.toNat - 48, by omega, ?_⟩
  rw [← hchar _ (by omega), Nat.add_sub_cancel' hlow, Char.ofNat_toNat]

/-- More digits behind those of a number that is not zero. -/
theorem toDigits_ofDigitChars_of_pos {ds : List Char} (hds : ∀ d ∈ ds, d.isDigit) {n : Nat}
    (hn : 0 < n) : Nat.toDigits 10 (Nat.ofDigitChars 10 ds n) = Nat.toDigits 10 n ++ ds := by
  induction ds generalizing n with
  | nil => simp
  | cons d rest ih =>
    obtain ⟨k, hk, rfl⟩ := exists_digitChar (hds d List.mem_cons_self)
    rw [Nat.ofDigitChars_cons_digitChar_of_lt_ten hk,
      ih (fun d hd => hds d (List.mem_cons_of_mem _ hd)) (by omega),
      ← Nat.toDigits_append_toDigits (by omega) hn hk, Nat.toDigits_of_lt_base hk,
      List.append_assoc, List.singleton_append]

/-- An integer is written by the digits of its number. -/
theorem toDigits_ofDigitChars {integer : List Char} (h : IsInteger integer) :
    Nat.toDigits 10 (Nat.ofDigitChars 10 integer 0) = integer := by
  cases h with
  | zero => rfl
  | digits hc hne hds =>
    obtain ⟨k, hk, rfl⟩ := exists_digitChar hc
    have hpos : 0 < k := by
      refine Nat.pos_of_ne_zero ?_
      rintro rfl
      exact hne rfl
    rw [Nat.ofDigitChars_cons_digitChar_of_lt_ten hk, toDigits_ofDigitChars_of_pos hds (by omega),
      Nat.mul_zero, Nat.zero_add, Nat.toDigits_of_lt_base hk, List.singleton_append]

end RpmProvision.Json
