/-
Which texts are read as which tokens.

A string may be written in many ways, as every character may be escaped; a token of any other sort is
written in one way. White space may stand before every token and at the end. Only a number needs to be
told from what follows it, and what follows a number in a document never goes on with it.

* **`Token.Spells`** — how a token may be written;
* **`Spread`** — how tokens may be laid out as a text;
* **`tokens?_spread`** — the tokens of a text are those that were laid out;
* **`spread_layOut`** — what is written line by line is such a text.
-/
import RpmProvision.Json.Lexer
import RpmProvision.Json.Printer

namespace RpmProvision.Json

/-! ### Strings -/

/-- How a part of a string may be written. -/
inductive StringPart.Spells : StringPart → List Char → Prop where
  | plain {c : Char} (hquote : c ≠ '"') (hslash : c ≠ '\\') (hcontrol : 0x20 ≤ c.toNat) :
      Spells (.char c) [c]
  | short {e c : Char} (h : shortEscape? e = some c) : Spells (.char c) ['\\', e]
  | codeUnit {a b c d : Char} {n : Nat} (h : codeUnit? a b c d = some n) :
      Spells (.codeUnit n) ['\\', 'u', a, b, c, d]

/-- How the parts of a string may be written, one behind the other. -/
inductive SpellsParts : List StringPart → List Char → Prop where
  | nil : SpellsParts [] []
  | cons {part : StringPart} {parts : List StringPart} {cs rest : List Char} :
      part.Spells cs → SpellsParts parts rest → SpellsParts (part :: parts) (cs ++ rest)

/-- Reading a string goes on behind a part. -/
theorem scanString_part {part : StringPart} {cs : List Char} (h : part.Spells cs)
    (rest : List Char) :
    scanString (cs ++ rest) = (scanString rest).map fun p => (part :: p.1, p.2) := by
  cases h with
  | @plain c hquote hslash hcontrol =>
    show scanString (c :: rest) = _
    rw [scanString]
    · rw [if_neg (by simp [hslash]; omega)]
      cases scanString rest <;> rfl
    -- what remains is that no earlier case of the scanner applies
    all_goals simp_all
  | @short e c he =>
    have hu : e ≠ 'u' := by
      rintro rfl
      exact absurd he (by simp [shortEscape?])
    show scanString ('\\' :: e :: rest) = _
    rw [scanString]
    · rw [he]
      cases scanString rest <;> rfl
    · intro a b c d rest' heq _
      exact hu heq
  | @codeUnit a b c d n hn =>
    show scanString ('\\' :: 'u' :: a :: b :: c :: d :: rest) = _
    rw [scanString, hn]
    cases scanString rest <;> rfl

theorem scanString_spells {parts : List StringPart} {cs : List Char} (h : SpellsParts parts cs)
    (rest : List Char) : scanString (cs ++ '"' :: rest) = some (parts, rest) := by
  induction h with
  | nil => rw [List.nil_append, scanString]
  | cons hpart _ ih => rw [List.append_assoc, scanString_part hpart, ih, Option.map_some]

theorem codeUnit?_digitChar : ∀ n < 0x20,
    codeUnit? '0' '0' (Nat.digitChar (n / 16)) (Nat.digitChar (n % 16)) = some n := by
  decide

/-- The part that a written character is read as: its number if it is a control character without a
short escape. -/
def partOf (c : Char) : StringPart :=
  if c ∈ ['\x08', '\x0c', '\n', '\r', '\t'] then .char c
  else if c.toNat < 0x20 then .codeUnit c.toNat
  else .char c

theorem spells_escapeChar (c : Char) : (partOf c).Spells (escapeChar c) := by
  by_cases hq : c = '"'
  · subst hq
    exact .short rfl
  by_cases hb : c = '\\'
  · subst hb
    exact .short rfl
  by_cases hshort : c ∈ ['\x08', '\x0c', '\n', '\r', '\t']
  · simp only [List.mem_cons, List.not_mem_nil, or_false] at hshort
    rcases hshort with rfl | rfl | rfl | rfl | rfl <;> exact .short rfl
  · -- without a short escape, a control character is written by its number
    rw [partOf, if_neg hshort]
    simp only [List.mem_cons, List.not_mem_nil, or_false, not_or] at hshort
    obtain ⟨h₁, h₂, h₃, h₄, h₅⟩ := hshort
    rw [escapeChar, if_neg hq, if_neg hb, if_neg h₁, if_neg h₂, if_neg h₃, if_neg h₄, if_neg h₅]
    by_cases hc : c.toNat < 0x20
    · rw [if_pos hc, if_pos hc]
      exact .codeUnit (codeUnit?_digitChar c.toNat hc)
    · rw [if_neg hc, if_neg hc]
      exact .plain hq hb (by omega)

theorem spellsParts_escape (cs : List Char) :
    SpellsParts (cs.map partOf) (cs.flatMap escapeChar) := by
  induction cs with
  | nil => exact .nil
  | cons c cs ih => exact .cons (spells_escapeChar c) ih

theorem joinParts_codeUnit {n : Nat} (hn : n < 0xd800) (parts : List StringPart) :
    joinParts (.codeUnit n :: parts) = (joinParts parts).map (Char.ofNat n :: ·) := by
  rw [joinParts.eq_def]
  dsimp only
  rw [if_pos (.inl hn)]

theorem joinParts_partOf (cs : List Char) : joinParts (cs.map partOf) = some cs := by
  induction cs with
  | nil => rfl
  | cons c cs ih =>
    rw [List.map_cons, partOf]
    by_cases hshort : c ∈ ['\x08', '\x0c', '\n', '\r', '\t']
    · rw [if_pos hshort, joinParts, ih]
      rfl
    · rw [if_neg hshort]
      by_cases hc : c.toNat < 0x20
      · rw [if_pos hc, joinParts_codeUnit (by omega), ih, Char.ofNat_toNat]
        rfl
      · rw [if_neg hc, joinParts, ih]
        rfl

/-! ### Numbers -/

/-- A zero, or digits without a leading zero. -/
inductive IsInteger : List Char → Prop where
  | zero : IsInteger ['0']
  | digits {c : Char} {ds : List Char} (hc : c.isDigit) (hne : c ≠ '0')
      (hds : ∀ d ∈ ds, d.isDigit) : IsInteger (c :: ds)

/-- Nothing, or a point and digits. -/
inductive IsFraction : List Char → Prop where
  | absent : IsFraction []
  | present {ds : List Char} (hne : ds ≠ []) (hds : ∀ d ∈ ds, d.isDigit) : IsFraction ('.' :: ds)

/-- Nothing, or a mark, a sign if there is one, and digits. -/
inductive IsExponent : List Char → Prop where
  | absent : IsExponent []
  | present {mark : Char} {sign ds : List Char} (hmark : mark = 'e' ∨ mark = 'E')
      (hsign : sign = [] ∨ sign = ['+'] ∨ sign = ['-']) (hne : ds ≠ [])
      (hds : ∀ d ∈ ds, d.isDigit) : IsExponent (mark :: sign ++ ds)

/-- The characters of a number. -/
inductive IsNumeral : List Char → Prop where
  | positive {integer fraction exponent : List Char} (hinteger : IsInteger integer)
      (hfraction : IsFraction fraction) (hexponent : IsExponent exponent) :
      IsNumeral (integer ++ fraction ++ exponent)
  | negative {integer fraction exponent : List Char} (hinteger : IsInteger integer)
      (hfraction : IsFraction fraction) (hexponent : IsExponent exponent) :
      IsNumeral ('-' :: (integer ++ fraction ++ exponent))

/-- The text does not go on with digits. -/
def NoDigit (rest : List Char) : Prop := ∀ c ∈ rest.head?, c.isDigit = false

/-- The text does not go on with a number. -/
def Ends (rest : List Char) : Prop :=
  ∀ c ∈ rest.head?, ¬ c.isDigit ∧ c ≠ '.' ∧ c ≠ 'e' ∧ c ≠ 'E'

theorem Ends.noDigit {rest : List Char} (h : Ends rest) : NoDigit rest := by
  intro c hc
  simpa using (h c hc).1

theorem scanDigits_append {ds rest : List Char} (hds : ∀ c ∈ ds, c.isDigit) (hrest : NoDigit rest) :
    scanDigits (ds ++ rest) = (ds, rest) := by
  rw [scanDigits, List.takeWhile_append_of_pos hds, List.dropWhile_append_of_pos hds]
  cases rest with
  | nil => simp
  | cons c rest =>
    have hc := hrest c rfl
    rw [List.takeWhile_cons_of_neg (by simp [hc]), List.dropWhile_cons_of_neg (by simp [hc]),
      List.append_nil]

theorem scanInteger_append {integer rest : List Char} (h : IsInteger integer)
    (hrest : NoDigit rest) : scanInteger (integer ++ rest) = some (integer, rest) := by
  cases h with
  | zero => rfl
  | digits hc hne hds =>
    rw [List.cons_append, scanInteger, if_neg hne, if_pos hc, scanDigits_append hds hrest]

theorem scanFraction_append {fraction rest : List Char} (h : IsFraction fraction)
    (hrest : NoDigit rest) (hpoint : ∀ c ∈ rest.head?, c ≠ '.') :
    scanFraction (fraction ++ rest) = some (fraction, rest) := by
  cases h with
  | absent =>
    cases rest with
    | nil => rfl
    | cons c rest =>
      rw [List.nil_append, scanFraction]
      intro rest' heq
      exact hpoint c rfl (List.cons.inj heq).1
  | @present ds hne hds =>
    obtain ⟨d, ds, rfl⟩ := List.exists_cons_of_ne_nil hne
    show scanFraction ('.' :: (d :: ds ++ rest)) = _
    rw [scanFraction, scanDigits_append hds hrest]

theorem scanSign_append {sign ds rest : List Char} (h : sign = [] ∨ sign = ['+'] ∨ sign = ['-'])
    (hne : ds ≠ []) (hds : ∀ d ∈ ds, d.isDigit) :
    scanSign (sign ++ (ds ++ rest)) = (sign, ds ++ rest) := by
  rcases h with rfl | rfl | rfl
  · -- no digit is a sign
    obtain ⟨d, ds, rfl⟩ := List.exists_cons_of_ne_nil hne
    have hd := hds d List.mem_cons_self
    rw [List.nil_append, List.cons_append, scanSign]
    all_goals
      intro rest' heq
      rw [(List.cons.inj heq).1] at hd
      exact absurd hd (by decide)
  · rfl
  · rfl

theorem scanExponent_append {exponent rest : List Char} (h : IsExponent exponent)
    (hrest : Ends rest) : scanExponent (exponent ++ rest) = some (exponent, rest) := by
  cases h with
  | absent =>
    cases rest with
    | nil => rfl
    | cons c rest =>
      obtain ⟨-, -, he, hE⟩ := hrest c rfl
      rw [List.nil_append, scanExponent, if_neg (by simp [he, hE])]
  | @present mark sign ds hmark hsign hne hds =>
    obtain ⟨d, ds, rfl⟩ := List.exists_cons_of_ne_nil hne
    rw [List.append_assoc, List.cons_append, scanExponent, if_pos hmark,
      scanSign_append hsign hne hds]
    dsimp only
    rw [scanDigits_append hds hrest.noDigit]

/-- A number is told from what follows it. -/
theorem scanUnsigned_append {integer fraction exponent rest : List Char}
    (hinteger : IsInteger integer) (hfraction : IsFraction fraction)
    (hexponent : IsExponent exponent) (hrest : Ends rest) :
    scanUnsigned (integer ++ fraction ++ exponent ++ rest)
      = some (integer ++ fraction ++ exponent, rest) := by
  -- an exponent begins with a letter, and a fraction with a point
  have hmark : NoDigit (exponent ++ rest) ∧ ∀ c ∈ (exponent ++ rest).head?, c ≠ '.' := by
    cases hexponent with
    | absent => exact ⟨hrest.noDigit, fun c hc => (hrest c hc).2.1⟩
    | present hmark _ _ _ =>
      constructor
      all_goals
        intro c hc
        cases hc
        rcases hmark with rfl | rfl <;> decide
  have hpoint : NoDigit (fraction ++ (exponent ++ rest)) := by
    cases hfraction with
    | absent => exact hmark.1
    | present _ _ =>
      intro c hc
      cases hc
      rfl
  rw [List.append_assoc, List.append_assoc, scanUnsigned, scanInteger_append hinteger hpoint]
  dsimp only
  rw [scanFraction_append hfraction hmark.1 hmark.2]
  dsimp only
  rw [scanExponent_append hexponent hrest]

theorem IsInteger.exists_head {integer : List Char} (h : IsInteger integer) :
    ∃ c cs, integer = c :: cs ∧ c.isDigit := by
  cases h with
  | zero => exact ⟨'0', [], rfl, rfl⟩
  | digits hc _ _ => exact ⟨_, _, rfl, hc⟩

theorem scanNumber_append {numeral rest : List Char} (h : IsNumeral numeral) (hrest : Ends rest) :
    scanNumber (numeral ++ rest) = some (numeral, rest) := by
  cases h with
  | positive hinteger hfraction hexponent =>
    rw [scanNumber]
    · exact scanUnsigned_append hinteger hfraction hexponent hrest
    · -- no digit is a sign
      intro rest' heq
      obtain ⟨c, cs, rfl, hc⟩ := hinteger.exists_head
      rw [(List.cons.inj heq).1] at hc
      exact absurd hc (by decide)
  | negative hinteger hfraction hexponent =>
    rw [List.cons_append, scanNumber, scanUnsigned_append hinteger hfraction hexponent hrest]
    rfl

theorem head?_toDigits_of_pos {n : Nat} (hn : 0 < n) :
    ∃ c ds, Nat.toDigits 10 n = c :: ds ∧ c ≠ '0' := by
  -- the first digit of a number is the first digit of its tenth
  induction n using Nat.strongRecOn with
  | _ n ih =>
    by_cases h : n < 10
    · refine ⟨n.digitChar, [], Nat.toDigits_of_lt_base h, ?_⟩
      have : ∀ k < 10, 0 < k → k.digitChar ≠ '0' := by decide
      exact this n h hn
    · obtain ⟨c, ds, hds, hc⟩ := ih (n / 10) (by omega) (by omega)
      refine ⟨c, ds ++ [(n % 10).digitChar], ?_, hc⟩
      rw [Nat.toDigits_of_base_le (by omega) (by omega), hds]
      rfl

theorem isNumeral_toDigits (n : Nat) : IsNumeral (Nat.toDigits 10 n) := by
  have hinteger : IsInteger (Nat.toDigits 10 n) := by
    by_cases hn : n = 0
    · rw [hn, Nat.toDigits_zero]
      exact .zero
    · obtain ⟨c, ds, hds, hc⟩ := head?_toDigits_of_pos (Nat.pos_of_ne_zero hn)
      have hdigit : ∀ d ∈ c :: ds, d.isDigit := by
        intro d hd
        rw [← hds] at hd
        exact Nat.isDigit_of_mem_toDigits (by omega) (by omega) hd
      rw [hds]
      exact .digits (hdigit c List.mem_cons_self) hc fun d hd =>
        hdigit d (List.mem_cons_of_mem c hd)
  simpa using IsNumeral.positive hinteger .absent .absent

/-! ### Tokens -/

namespace Token

/-- How a token may be written. -/
def Spells (t : Token) (cs : List Char) : Prop :=
  match t with
  | .number numeral => cs = numeral ∧ IsNumeral numeral
  | .string s => ∃ parts body, SpellsParts parts body ∧ s = (joinParts parts).map String.ofList
    ∧ cs = '"' :: (body ++ ['"'])
  | t => cs = t.write

/-- A number written by the digits of a natural number, or a text. -/
def Plain : Token → Prop
  | .number numeral => ∃ n, numeral = Nat.toDigits 10 n
  | .string s => s.isSome
  | _ => True

/-- Whether the token stands between values. -/
def separates : Token → Bool
  | .comma | .colon | .closeArray | .closeObject => true
  | _ => false

/-- What is written for a plain token is one of the ways to write it. -/
theorem Plain.spells_write {t : Token} (h : t.Plain) : t.Spells t.write := by
  match t with
  | .number numeral =>
    obtain ⟨n, rfl⟩ := h
    exact ⟨rfl, isNumeral_toDigits n⟩
  | .string none => exact absurd h (by simp [Plain])
  | .string (some s) =>
    exact ⟨s.toList.map partOf, _, spellsParts_escape s.toList, by simp [joinParts_partOf], rfl⟩
  | .openArray | .closeArray | .openObject | .closeObject | .comma | .colon | .null | .bool _ =>
    exact rfl

end Token

theorem scanToken_numeral {numeral rest : List Char} (h : IsNumeral numeral) :
    scanToken (numeral ++ rest) = (scanNumber (numeral ++ rest)).map fun p => (.number p.1, p.2) := by
  have hhead : ∃ c cs, numeral = c :: cs ∧ (c = '-' ∨ c.isDigit) := by
    cases h with
    | positive hinteger _ _ =>
      obtain ⟨c, cs, rfl, hc⟩ := hinteger.exists_head
      exact ⟨c, _, rfl, .inr hc⟩
    | negative _ _ _ => exact ⟨_, _, rfl, .inl rfl⟩
  obtain ⟨c, cs, rfl, hc⟩ := hhead
  have hne {d : Char} (hd : d ≠ '-' ∧ d.isDigit = false) {cs' : List Char}
      (heq : c :: cs ++ rest = d :: cs') : False := by
    rw [(List.cons.inj heq).1] at hc
    rcases hc with hc | hc
    · exact hd.1 hc
    · rw [hd.2] at hc
      cases hc
  rw [scanToken]
  -- none of the other first characters is a digit or a sign
  · exact List.cons_ne_nil c _
  all_goals exact fun _ => hne (by decide)

/-- A token is read from the front of a text; a number only if the text does not go on with it. -/
theorem scanToken_spells {t : Token} {cs rest : List Char} (h : t.Spells cs)
    (hrest : ∀ numeral, t = .number numeral → Ends rest) :
    scanToken (cs ++ rest) = some (t, rest) := by
  match t with
  | .number numeral =>
    obtain ⟨rfl, hnumeral⟩ := h
    rw [scanToken_numeral hnumeral, scanNumber_append hnumeral (hrest cs rfl)]
    rfl
  | .string s =>
    obtain ⟨parts, body, hparts, rfl, rfl⟩ := h
    show scanToken ('"' :: (body ++ ['"'] ++ rest)) = _
    rw [scanToken, List.append_assoc, List.singleton_append, scanString_spells hparts]
    rfl
  | .bool true | .bool false | .openArray | .closeArray | .openObject | .closeObject | .comma
  | .colon | .null =>
    cases h
    rfl

theorem not_isWhite_of_isDigit {c : Char} (h : c.isDigit) : isWhite c = false := by
  rw [isWhite, Bool.or_eq_false_iff, Bool.or_eq_false_iff, Bool.or_eq_false_iff]
  refine ⟨⟨⟨?_, ?_⟩, ?_⟩, ?_⟩ <;>
  · refine decide_eq_false ?_
    rintro rfl
    exact absurd h (by decide)

/-- No token begins with white space. -/
theorem exists_head_spells {t : Token} {cs : List Char} (h : t.Spells cs) :
    ∃ c cs', cs = c :: cs' ∧ isWhite c = false := by
  match t with
  | .number numeral =>
    obtain ⟨rfl, hnumeral⟩ := h
    cases hnumeral with
    | positive hinteger _ _ =>
      obtain ⟨c, cs, rfl, hc⟩ := hinteger.exists_head
      exact ⟨c, _, rfl, not_isWhite_of_isDigit hc⟩
    | negative _ _ _ => exact ⟨_, _, rfl, rfl⟩
  | .string s =>
    obtain ⟨parts, body, -, -, rfl⟩ := h
    exact ⟨_, _, rfl, rfl⟩
  | .bool true | .bool false | .openArray | .closeArray | .openObject | .closeObject | .comma
  | .colon | .null =>
    cases h
    exact ⟨_, _, rfl, rfl⟩

/-! ### Texts -/

/-- How tokens may be laid out as a text: with white space before each of them and at the end. -/
inductive Spread : List Token → List Char → Prop where
  | done {ws : List Char} (hws : ∀ c ∈ ws, isWhite c) : Spread [] ws
  | token {t : Token} {ts : List Token} {ws cs rest : List Char} (hws : ∀ c ∈ ws, isWhite c)
      (hspells : t.Spells cs) (hrest : Spread ts rest) : Spread (t :: ts) (ws ++ (cs ++ rest))

theorem Spread.white_append {ts : List Token} {ws cs : List Char} (hws : ∀ c ∈ ws, isWhite c)
    (h : Spread ts cs) : Spread ts (ws ++ cs) := by
  have hboth {ws' : List Char} (hws' : ∀ c ∈ ws', isWhite c) : ∀ c ∈ ws ++ ws', isWhite c := by
    intro c hc
    rcases List.mem_append.mp hc with hc | hc
    · exact hws c hc
    · exact hws' c hc
  cases h with
  | done hws' => exact .done (hboth hws')
  | token hws' hspells hrest =>
    rw [← List.append_assoc]
    exact .token (hboth hws') hspells hrest

/-- Reading the first token and then the others. -/
theorem tokens?_eq (cs : List Char) :
    tokens? cs = match cs.dropWhile isWhite with
      | [] => some []
      | c :: rest => (scanToken (c :: rest)).bind fun p => (tokens? p.2).map (p.1 :: ·) := by
  rw [tokens?]
  split
  · next h => rw [h]
  · next c rest h =>
    rw [h]
    dsimp only
    split
    · next hscan => rw [hscan]; rfl
    · next t after hscan => rw [hscan]; rfl

theorem tokens?_white {ws : List Char} (h : ∀ c ∈ ws, isWhite c) (cs : List Char) :
    tokens? (ws ++ cs) = tokens? cs := by
  rw [tokens?_eq, tokens?_eq cs, List.dropWhile_append_of_pos h]

theorem tokens?_spells {t : Token} {cs rest : List Char} (h : t.Spells cs)
    (hrest : ∀ numeral, t = .number numeral → Ends rest) :
    tokens? (cs ++ rest) = (tokens? rest).map (t :: ·) := by
  have hscan := scanToken_spells h hrest
  obtain ⟨c, cs', rfl, hc⟩ := exists_head_spells h
  rw [tokens?_eq]
  rw [List.cons_append] at hscan ⊢
  rw [List.dropWhile_cons_of_neg (by simp [hc])]
  dsimp only
  rw [hscan]
  rfl

/-- After every number comes a token that stands between values, or nothing. -/
def spaced : List Token → Bool
  | .number _ :: t :: rest => t.separates && spaced (t :: rest)
  | _ :: rest => spaced rest
  | [] => true

theorem spaced_of_cons {t : Token} {ts : List Token} (h : spaced (t :: ts)) : spaced ts := by
  cases ts with
  | nil => rfl
  | cons u rest =>
    cases t with
    | number numeral =>
      rw [spaced, Bool.and_eq_true] at h
      exact h.2
    | _ => exact h

/-- What follows a number does not go on with it: white space, or a token that stands between
values. -/
theorem ends_of_spread {numeral : List Char} {ts : List Token} {cs : List Char}
    (hspaced : spaced (.number numeral :: ts)) (h : Spread ts cs) : Ends cs := by
  have hends {c : Char} (rest : List Char) (hc : c ∈ [' ', '\n', '\t', '\r', ',', ':', ']', '\x7d']) :
      Ends (c :: rest) := by
    rintro d hd
    cases hd
    simp only [List.mem_cons, List.not_mem_nil, or_false] at hc
    rcases hc with rfl | rfl | rfl | rfl | rfl | rfl | rfl | rfl <;> decide
  have hwhite {c : Char} (rest : List Char) (hc : isWhite c) : Ends (c :: rest) := by
    simp only [isWhite, Bool.or_eq_true, decide_eq_true_eq] at hc
    rcases hc with ((rfl | rfl) | rfl) | rfl <;> exact hends rest (by decide)
  cases h with
  | done hws =>
    cases cs with
    | nil => exact fun c hc => absurd hc (by simp)
    | cons c rest => exact hwhite rest (hws c List.mem_cons_self)
  | @token t ts ws cs rest hws hspells hrest =>
    rw [spaced, Bool.and_eq_true] at hspaced
    cases ws with
    | cons c ws => exact hwhite _ (hws c List.mem_cons_self)
    | nil =>
      cases t with
      | comma | colon | closeArray | closeObject =>
        cases hspells
        exact hends _ (by decide)
      | _ => exact absurd hspaced.1 (by simp [Token.separates])

/-- The tokens of a text are the tokens that were laid out. -/
theorem tokens?_spread {ts : List Token} {cs : List Char} (hspaced : spaced ts)
    (h : Spread ts cs) : tokens? cs = some ts := by
  induction h with
  | @done ws hws =>
    rw [← List.append_nil ws, tokens?_white hws, tokens?_eq]
    rfl
  | @token t ts ws cs rest hws hspells hrest ih =>
    have hends : ∀ numeral, t = .number numeral → Ends rest := by
      rintro numeral rfl
      exact ends_of_spread hspaced hrest
    rw [tokens?_white hws, tokens?_spells hspells hends, ih (spaced_of_cons hspaced)]
    rfl

/-! ### Layouts -/

theorem isWhite_of_mem_newLine {c : Char} {depth : Nat} (h : c ∈ newLine depth) : isWhite c := by
  rcases List.mem_cons.mp h with rfl | h
  · rfl
  · rw [List.eq_of_mem_replicate h]
    rfl

theorem isWhite_of_mem_fresh {c : Char} {depth : Nat} {fresh : Bool}
    (h : c ∈ if fresh then newLine depth else []) : isWhite c := by
  cases fresh with
  | true => exact isWhite_of_mem_newLine h
  | false => exact absurd h List.not_mem_nil

/-- A layout is its first token and the layout of the others, with white space around the token. -/
theorem exists_layOut_cons (depth : Nat) (fresh : Bool) (t : Token) (rest : List Token) :
    ∃ before between depth' fresh',
      layOut depth fresh (t :: rest) = before ++ (t.write ++ (between ++ layOut depth' fresh' rest))
        ∧ (∀ c ∈ before, isWhite c) ∧ ∀ c ∈ between, isWhite c := by
  have hnone : ∀ c ∈ ([] : List Char), isWhite c := fun c hc => absurd hc List.not_mem_nil
  have hspace : ∀ c ∈ [' '], isWhite c := by
    intro c hc
    rw [List.mem_singleton.mp hc]
    decide
  have hline (k : Nat) : ∀ c ∈ newLine k, isWhite c := fun _ => isWhite_of_mem_newLine
  have hfresh : ∀ c ∈ (if fresh then newLine depth else []), isWhite c :=
    fun _ => isWhite_of_mem_fresh
  have hclose : ∀ c ∈ (if fresh then [] else newLine (depth - 1)), isWhite c := by
    cases fresh with
    | true => exact hnone
    | false => exact hline _
  cases t with
  | comma => exact ⟨[], newLine depth, depth, false, rfl, hnone, hline depth⟩
  | colon => exact ⟨[], [' '], depth, false, rfl, hnone, hspace⟩
  | closeArray => exact ⟨_, [], depth - 1, false, List.append_assoc .., hclose, hnone⟩
  | closeObject => exact ⟨_, [], depth - 1, false, List.append_assoc .., hclose, hnone⟩
  | openArray => exact ⟨_, [], depth + 1, true, List.append_assoc .., hfresh, hnone⟩
  | openObject => exact ⟨_, [], depth + 1, true, List.append_assoc .., hfresh, hnone⟩
  | null => exact ⟨_, [], depth, false, List.append_assoc .., hfresh, hnone⟩
  | bool b => exact ⟨_, [], depth, false, List.append_assoc .., hfresh, hnone⟩
  | number numeral => exact ⟨_, [], depth, false, List.append_assoc .., hfresh, hnone⟩
  | string s => exact ⟨_, [], depth, false, List.append_assoc .., hfresh, hnone⟩

/-- A layout lays its tokens out, also with white space behind it. -/
theorem spread_layOut {tail : List Char} (htail : ∀ c ∈ tail, isWhite c) {ts : List Token}
    (hplain : ∀ t ∈ ts, t.Plain) (depth : Nat) (fresh : Bool) :
    Spread ts (layOut depth fresh ts ++ tail) := by
  induction ts generalizing depth fresh with
  | nil => exact .done htail
  | cons t rest ih =>
    obtain ⟨before, between, depth', fresh', heq, hbefore, hbetween⟩ :=
      exists_layOut_cons depth fresh t rest
    have hrest := ih (fun u hu => hplain u (List.mem_cons_of_mem t hu)) depth' fresh'
    rw [heq, List.append_assoc, List.append_assoc, List.append_assoc]
    exact .token hbefore (hplain t List.mem_cons_self).spells_write (hrest.white_append hbetween)

/-- Tokens may also be written without white space. -/
theorem spread_write {ts : List Token} (hplain : ∀ t ∈ ts, t.Plain) :
    Spread ts (ts.flatMap Token.write) := by
  induction ts with
  | nil => exact .done (by simp)
  | cons t rest ih =>
    have hrest := ih fun u hu => hplain u (List.mem_cons_of_mem t hu)
    exact @Spread.token t rest [] _ _ (by simp) (hplain t List.mem_cons_self).spells_write hrest

end RpmProvision.Json
