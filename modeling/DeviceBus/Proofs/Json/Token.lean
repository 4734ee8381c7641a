import DeviceBus.Json.Parser
import DeviceBus.Json.Printer
import Mathlib.Tactic.IntervalCases

/-!
# What is printed is read as tokens

`lex` is the reading of tokens apart from the parser: `parse?` reads the tokens of the input and feeds
them to it (`parse?_eq`).  A text *writes* a list of tokens if these are what is read from it, with
whatever comes behind it read on as if it stood alone.  Strings may hold any bytes.  A number must be
followed by something that cannot go on with it; marks and blanks are such, so items that are
separated by them are read one by one:

    Writes (printString content) [scalar (string content)]                      (writes_string)
    Writes (decimal n) [scalar (ofNat n)]                                       (writes_decimal)
    items written each  →  Writes (first ++ sep.intercalate items ++ last) …    (writes_list)
-/

namespace DeviceBus.Json

/-! ## Reading tokens -/

/-- The tokens of the input, read from the middle of a token on, if all of it can be read. -/
def lex : Lexeme → Bytes → Option (List Token)
  | l, [] => l.close?
  | l, b :: rest => (l.advance b).bind fun step => (lex step.2 rest).map (step.1 ++ ·)

theorem lex_cons {l l' : Lexeme} {b : UInt8} {tokens : List Token}
    (h : l.advance b = some (tokens, l')) (rest : Bytes) :
    lex l (b :: rest) = (lex l' rest).map (tokens ++ ·) := by
  rw [lex, h]
  rfl

/-- A byte that completes nothing is taken into the token. -/
theorem lex_push {l k : Lexeme} {b : UInt8} (h : l.advance b = some ([], k)) (rest : Bytes) :
    lex l (b :: rest) = lex k rest := by
  rw [lex_cons h]
  simp

theorem Parser.feedAll_append (p : Parser) (ts us : List Token) :
    p.feedAll (ts ++ us) = (p.feedAll ts).bind (Parser.feedAll · us) := by
  induction ts generalizing p with
  | nil => rfl
  | cons t ts ih =>
    show (p.feed t).bind (fun p => p.feedAll (ts ++ us)) =
      ((p.feed t).bind fun p => p.feedAll ts).bind (Parser.feedAll · us)
    simp only [ih, Option.bind_assoc]

/-- Tokens may be read first and fed to the parser afterwards. -/
theorem consume_eq (p : Parser) (l : Lexeme) (input : Bytes) :
    (consume p l input).bind (fun q => q.2.close?.bind q.1.feedAll) =
      (lex l input).bind p.feedAll := by
  induction input generalizing p l with
  | nil => rfl
  | cons b rest ih =>
    cases hstep : l.advance b with
    | none => simp [consume, lex, hstep]
    | some step =>
      obtain ⟨tokens, l'⟩ := step
      have hlex : (lex l (b :: rest)).bind p.feedAll =
          (p.feedAll tokens).bind fun p => (lex l' rest).bind p.feedAll := by
        rw [lex_cons hstep, Option.bind_map]
        cases lex l' rest with
        | none => simp
        | some later => exact p.feedAll_append tokens later
      rw [hlex, consume, hstep]
      cases hfed : p.feedAll tokens with
      | none => simp [hfed]
      | some p' => simpa [hfed] using ih p' l'

theorem parse?_eq (input : Bytes) :
    parse? input = ((lex .gap input).bind (Parser.feedAll .start)).bind fun p =>
      match p.expected with
      | .nothing document => some document
      | _ => none := by
  rw [← consume_eq]
  unfold parse?
  cases consume .start .gap input with
  | none => rfl
  | some q =>
    obtain ⟨p, l⟩ := q
    exact (Option.bind_assoc l.close? p.feedAll _).symm

/-! ## Texts that write tokens -/

/-- No number goes on with these bytes. -/
def Delimits (rest : Bytes) : Prop :=
  ∀ b, rest.head? = some b →
    OpenNumeral.digit? b = none ∧ b ≠ 0x2E ∧ b ≠ 0x65 ∧ b ≠ 0x45

theorem delimits_nil : Delimits [] := by
  intro b h
  cases h

/-- The text is read as these tokens, if no number goes on behind it. -/
def Writes (text : Bytes) (tokens : List Token) : Prop :=
  ∀ rest, Delimits rest → lex .gap (text ++ rest) = (lex .gap rest).map (tokens ++ ·)

/-- The text is read as these tokens whatever is behind it, and goes on with no number before it. -/
structure Separates (text : Bytes) (tokens : List Token) : Prop where
  /-- It is read as these tokens. -/
  reads : ∀ rest, lex .gap (text ++ rest) = (lex .gap rest).map (tokens ++ ·)
  /-- It ends a number. -/
  ends : ∀ rest, Delimits (text ++ rest)

theorem Writes.lex_eq {text : Bytes} {tokens : List Token} (h : Writes text tokens) :
    lex .gap text = some tokens := by
  have hlex := h [] delimits_nil
  simpa [lex, Lexeme.close?] using hlex

theorem Separates.writes {text : Bytes} {tokens : List Token} (h : Separates text tokens) :
    Writes text tokens :=
  fun rest _ => h.reads rest

theorem Separates.append_writes {text text' : Bytes} {tokens tokens' : List Token}
    (h : Separates text tokens) (h' : Writes text' tokens') :
    Writes (text ++ text') (tokens ++ tokens') := by
  intro rest hrest
  rw [List.append_assoc, h.reads, h' rest hrest, Option.map_map]
  simp [Function.comp_def]

theorem Writes.append_separates {text text' : Bytes} {tokens tokens' : List Token}
    (h : Writes text tokens) (h' : Separates text' tokens') :
    Writes (text ++ text') (tokens ++ tokens') := by
  intro rest _
  rw [List.append_assoc, h _ (h'.ends rest), h'.reads, Option.map_map]
  simp [Function.comp_def]

theorem Separates.append {text text' : Bytes} {tokens tokens' : List Token}
    (h : Separates text tokens) (h' : Separates text' tokens') :
    Separates (text ++ text') (tokens ++ tokens') where
  reads rest := by
    rw [List.append_assoc, h.reads, h'.reads, Option.map_map]
    simp [Function.comp_def]
  ends rest := by
    rw [List.append_assoc]
    exact h.ends _

/-! ## Marks and blanks -/

/-- A byte that is a whole token, or none at all, separates. -/
theorem separates_of_start {b : UInt8} {tokens : List Token} (h : Lexeme.start b = some (tokens, .gap))
    (hends : OpenNumeral.digit? b = none ∧ b ≠ 0x2E ∧ b ≠ 0x65 ∧ b ≠ 0x45) :
    Separates [b] tokens where
  reads rest := lex_cons (l := .gap) h rest
  ends rest := by
    intro c hc
    cases hc
    exact hends

theorem separates_openArray : Separates [0x5B] [.openArray] :=
  separates_of_start rfl (by decide)

theorem separates_closeArray : Separates [0x5D] [.closeArray] :=
  separates_of_start rfl (by decide)

theorem separates_openObject : Separates [0x7B] [.openObject] :=
  separates_of_start rfl (by decide)

theorem separates_closeObject : Separates [0x7D] [.closeObject] :=
  separates_of_start rfl (by decide)

theorem separates_colon : Separates [0x3A] [.colon] :=
  separates_of_start rfl (by decide)

theorem separates_comma : Separates [0x2C] [.comma] :=
  separates_of_start rfl (by decide)

theorem separates_blank : Separates [0x20] [] :=
  separates_of_start rfl (by decide)

theorem separates_newLine (level : Nat) : Separates (newLine level) [] := by
  have hline : Separates [0x0A] [] := separates_of_start rfl (by decide)
  have hblanks : ∀ n, Separates (0x0A :: List.replicate n 0x20) [] := by
    intro n
    induction n with
    | zero => exact hline
    | succ n ih =>
      rw [List.replicate_succ', ← List.cons_append]
      exact ih.append separates_blank
  exact hblanks (2 * level)

/-! ## Lists -/

/-- Items between separators write their tokens between commas. -/
theorem writes_items {α : Type} {text : α → Bytes} {tokens : α → List Token} {sep : Bytes}
    (hsep : Separates sep [.comma]) {items : List α} (hne : items ≠ [])
    (h : ∀ a ∈ items, Writes (text a) (tokens a)) :
    Writes (sep.intercalate (items.map text)) ([Token.comma].intercalate (items.map tokens)) := by
  induction items with
  | nil => exact absurd rfl hne
  | cons a items ih =>
    cases items with
    | nil =>
      simp only [List.map_cons, List.map_nil, List.intercalate_singleton]
      exact h a (by simp)
    | cons a' items =>
      have hlater := ih (by simp) fun b hb => h b (List.mem_cons_of_mem a hb)
      simp only [List.map_cons, List.intercalate_cons_cons, List.append_assoc] at hlater ⊢
      have htail := hsep.append_writes hlater
      intro rest hrest
      have hhead := h a (by simp) (sep ++ (sep.intercalate (text a' :: items.map text)) ++ rest)
        (by rw [List.append_assoc]; exact hsep.ends _)
      rw [List.append_assoc, hhead, htail rest hrest, Option.map_map]
      simp [Function.comp_def]

/-- Items between brackets write their tokens between brackets. -/
theorem writes_list {α : Type} {text : α → Bytes} {tokens : α → List Token} {first sep last : Bytes}
    {opening closing : Token} (hfirst : Separates first [opening]) (hsep : Separates sep [.comma])
    (hlast : Separates last [closing]) {items : List α}
    (h : ∀ a ∈ items, Writes (text a) (tokens a)) :
    Writes (first ++ sep.intercalate (items.map text) ++ last)
      (opening :: [Token.comma].intercalate (items.map tokens) ++ [closing]) := by
  by_cases hne : items = []
  · subst hne
    simp only [List.map_nil, List.intercalate_nil, List.append_nil]
    exact (hfirst.append hlast).writes
  · exact (hfirst.append_writes (writes_items hsep hne h)).append_separates hlast

/-! ## Strings -/

/-- The byte of the string that is read from one escaped byte, whatever comes next. -/
theorem lex_escapeByte (reversed : Bytes) (b : UInt8) (rest : Bytes) :
    lex (.string ⟨reversed, none⟩) (escapeByte b ++ rest) =
      lex (.string ⟨b :: reversed, none⟩) rest := by
  -- a backslash and a letter
  have hletter : ∀ letter : UInt8, letter ≠ 0x75 → escaped? letter = some b →
      lex (.string ⟨reversed, none⟩) (0x5C :: letter :: rest) =
        lex (.string ⟨b :: reversed, none⟩) rest := by
    intro letter hnot hb
    rw [lex_push (k := .escape ⟨reversed, none⟩) rfl]
    refine lex_push ?_ rest
    simp [Lexeme.advance, hnot, hb, OpenString.push, OpenString.settled]
  by_cases h22 : b = 0x22
  · subst h22
    exact hletter 0x22 (by decide) rfl
  by_cases h5C : b = 0x5C
  · subst h5C
    exact hletter 0x5C (by decide) rfl
  by_cases h08 : b = 0x08
  · subst h08
    exact hletter 0x62 (by decide) rfl
  by_cases h09 : b = 0x09
  · subst h09
    exact hletter 0x74 (by decide) rfl
  by_cases h0A : b = 0x0A
  · subst h0A
    exact hletter 0x6E (by decide) rfl
  by_cases h0C : b = 0x0C
  · subst h0C
    exact hletter 0x66 (by decide) rfl
  by_cases h0D : b = 0x0D
  · subst h0D
    exact hletter 0x72 (by decide) rfl
  by_cases hcontrol : b < 0x20
  · -- four digits in base sixteen, the first two of them zero
    have hdigits : ∀ n : Nat, n < 0x20 →
        hexValue? (0x30 + UInt8.ofNat n / 16) = some (n / 16) ∧
        hexValue? (if UInt8.ofNat n % 16 < 10 then 0x30 + UInt8.ofNat n % 16
          else 0x57 + UInt8.ofNat n % 16) = some (n % 16) := by
      decide
    have hlt : b.toNat < 0x20 := hcontrol
    obtain ⟨hhigh, hlow⟩ := hdigits b.toNat hlt
    rw [UInt8.ofNat_toNat] at hhigh hlow
    have hprint : escapeByte b = [0x5C, 0x75, 0x30, 0x30, 0x30 + b / 16,
        if b % 16 < 10 then 0x30 + b % 16 else 0x57 + b % 16] := by
      simp [escapeByte, h22, h5C, h08, h09, h0A, h0C, h0D, hcontrol]
    have hunit : OpenString.pushUnit ⟨reversed, none⟩ (16 * (b.toNat / 16) + b.toNat % 16) =
        ⟨b :: reversed, none⟩ := by
      have hvalue : 16 * (b.toNat / 16) + b.toNat % 16 = b.toNat := Nat.div_add_mod b.toNat 16
      have hlone : ¬ (0xD800 ≤ b.toNat ∧ b.toNat < 0xDC00) := by omega
      have hascii : b.toNat < 0x80 := by omega
      rw [hvalue, OpenString.pushUnit, if_neg hlone]
      simp [OpenString.pointBytes, hascii]
    rw [hprint]
    simp only [List.cons_append, List.nil_append]
    rw [lex_push (k := .escape ⟨reversed, none⟩) rfl,
      lex_push (k := .codeUnit ⟨reversed, none⟩ 4 0) rfl,
      lex_push (k := .codeUnit ⟨reversed, none⟩ 3 0) rfl,
      lex_push (k := .codeUnit ⟨reversed, none⟩ 2 0) rfl,
      lex_push (k := .codeUnit ⟨reversed, none⟩ 1 (b.toNat / 16)) (by simp [Lexeme.advance, hhigh])]
    refine lex_push ?_ rest
    simp [Lexeme.advance, hlow, hunit]
  · have hprint : escapeByte b = [b] := by
      simp [escapeByte, h22, h5C, h08, h09, h0A, h0C, h0D, hcontrol]
    rw [hprint]
    refine lex_push ?_ rest
    simp [Lexeme.advance, h22, h5C, hcontrol, OpenString.push, OpenString.settled]

/-- A string is read as it was, whatever bytes it holds. -/
theorem writes_string (content : Bytes) :
    Writes (printString content) [.scalar (.string content)] := by
  intro rest _
  have hbody : ∀ reversed : Bytes, lex (.string ⟨reversed, none⟩)
      (content.flatMap escapeByte ++ 0x22 :: rest) =
        (lex .gap rest).map ([Token.scalar (.string (reversed.reverse ++ content))] ++ ·) := by
    induction content with
    | nil =>
      intro reversed
      rw [List.flatMap_nil, List.nil_append, List.append_nil]
      exact lex_cons rfl rest
    | cons b content ih =>
      intro reversed
      rw [List.flatMap_cons, List.append_assoc, lex_escapeByte, ih, List.reverse_cons,
        List.append_assoc, List.singleton_append]
  have hopen := hbody []
  rw [List.reverse_nil, List.nil_append] at hopen
  rw [← hopen, printString]
  simp only [List.cons_append, List.append_assoc, List.nil_append]
  exact lex_push rfl _

/-! ## Numbers -/

/-- The byte of a digit. -/
def digitByte (d : Nat) : UInt8 := UInt8.ofNat (0x30 + d)

theorem digit?_digitByte {d : Nat} (h : d < 10) : OpenNumeral.digit? (digitByte d) = some d := by
  have hall : ∀ d, d < 10 → OpenNumeral.digit? (digitByte d) = some d := by decide
  exact hall d h

theorem decimal_of_lt {n : Nat} (h : n < 10) : decimal n = [digitByte n] := by
  have hall : ∀ n, n < 10 → UInt8.ofNat (Nat.digitChar n).toNat = digitByte n := by decide
  rw [decimal, Nat.toDigits_of_lt_base h, List.map_singleton, hall n h]

theorem decimal_of_le {n : Nat} (h : 10 ≤ n) :
    decimal n = decimal (n / 10) ++ [digitByte (n % 10)] := by
  have hlast := decimal_of_lt (Nat.mod_lt n (by decide : 0 < 10))
  rw [decimal, Nat.toDigits_of_lt_base (Nat.mod_lt n (by decide))] at hlast
  rw [decimal, Nat.toDigits_of_base_le (by decide) h, List.map_append, hlast, decimal]

/-- The stage after the digits of a number: no digit may come after a zero in front. -/
def stageAfter (n : Nat) : NumeralStage := if n = 0 then .zero else .whole

/-- The induction is from the last digit, as the digits are. -/
theorem lex_decimal (n : Nat) (rest : Bytes) :
    lex (.number ⟨.sign, false, 0, 0, false, 0⟩) (decimal n ++ rest) =
      lex (.number ⟨stageAfter n, false, n, 0, false, 0⟩) rest := by
  induction n using Nat.strongRecOn generalizing rest with
  | ind n ih =>
    by_cases hone : n < 10
    · rw [decimal_of_lt hone]
      refine lex_push ?_ rest
      simp [Lexeme.advance, OpenNumeral.push?, digit?_digitByte hone, stageAfter]
    · have hwhole : stageAfter (n / 10) = .whole := if_neg (by omega)
      have hwhole' : stageAfter n = .whole := if_neg (by omega)
      have hvalue : 10 * (n / 10) + n % 10 = n := Nat.div_add_mod n 10
      rw [decimal_of_le (by omega), List.append_assoc, ih (n / 10) (by omega), hwhole, hwhole']
      refine lex_push ?_ rest
      simp [Lexeme.advance, OpenNumeral.push?, digit?_digitByte (Nat.mod_lt n (by decide : 0 < 10)),
        hvalue]

/-- The digits start with a digit. -/
theorem decimal_eq_cons (n : Nat) : ∃ d < 10, ∃ tail, decimal n = digitByte d :: tail := by
  induction n using Nat.strongRecOn with
  | ind n ih =>
    by_cases hone : n < 10
    · exact ⟨n, hone, [], decimal_of_lt hone⟩
    · obtain ⟨d, hd, tail, htail⟩ := ih (n / 10) (by omega)
      refine ⟨d, hd, tail ++ [digitByte (n % 10)], ?_⟩
      rw [decimal_of_le (by omega), htail, List.cons_append]

/-- A number that is complete is read when what comes next does not go on with it. -/
theorem lex_number {stage : NumeralStage} (hstage : stage = .zero ∨ stage = .whole) (n : Nat)
    {rest : Bytes} (hrest : Delimits rest) :
    lex (.number ⟨stage, false, n, 0, false, 0⟩) rest =
      (lex .gap rest).map ([Token.scalar (.number (.ofNat n))] ++ ·) := by
  have hclose : OpenNumeral.close? ⟨stage, false, n, 0, false, 0⟩ = some (.ofNat n) := by
    rcases hstage with rfl | rfl <;> rfl
  cases rest with
  | nil => simp [lex, Lexeme.close?, hclose]
  | cons b rest =>
    obtain ⟨hdigit, hpoint, hmark, hmark'⟩ := hrest b rfl
    have hstop : OpenNumeral.push? ⟨stage, false, n, 0, false, 0⟩ b = none := by
      rcases hstage with rfl | rfl <;> simp [OpenNumeral.push?, hdigit, hpoint, hmark, hmark']
    simp only [lex, Lexeme.advance, hstop, hclose]
    cases hstart : Lexeme.start b with
    | none => rfl
    | some step => simp [Function.comp_def]

/-- A natural number is read as it was. -/
theorem writes_decimal (n : Nat) : Writes (decimal n) [.scalar (.ofNat n)] := by
  intro rest hrest
  obtain ⟨d, hd, tail, hdigits⟩ := decimal_eq_cons n
  -- a digit starts a number between tokens as it does after no sign
  have hfirst : Lexeme.start (digitByte d) =
      Lexeme.advance (.number ⟨.sign, false, 0, 0, false, 0⟩) (digitByte d) := by
    interval_cases d <;> rfl
  have hgap : lex .gap (decimal n ++ rest) =
      lex (.number ⟨.sign, false, 0, 0, false, 0⟩) (decimal n ++ rest) := by
    rw [hdigits, List.cons_append, lex, lex, ← hfirst]
    rfl
  have hstage : stageAfter n = .zero ∨ stageAfter n = .whole := by
    unfold stageAfter
    by_cases hzero : n = 0
    · exact .inl (if_pos hzero)
    · exact .inr (if_neg hzero)
  rw [hgap, lex_decimal, lex_number hstage n hrest]
  rfl

end DeviceBus.Json
