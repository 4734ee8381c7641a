import DeviceBus.Proofs.Json.Token

/-!
# Documents are read as they were printed

A document is a list of tokens (`tokens`), and the parser, fed with them where it expects a value,
puts the document there (`feedAll_tokens`).  Both ways to print a document write these tokens, if its
numbers are natural numbers of 64 bits, and so it is read back from either:

    j.IsPlain → parse? (pretty level j) = some j      (parse?_pretty)
    j.IsPlain → parse? (compact j) = some j            (parse?_compact)
-/

namespace DeviceBus.Json

/-- A document whose numbers are natural numbers of 64 bits. -/
inductive IsPlain : Json → Prop
  | null : IsPlain .null
  | bool (value : Bool) : IsPlain (.bool value)
  | number {n : Nat} (h : n < 2 ^ 64) : IsPlain (.ofNat n)
  | string (content : Bytes) : IsPlain (.string content)
  | array {items : List Json} (h : ∀ v ∈ items, IsPlain v) : IsPlain (.array items)
  | object {fields : List (Bytes × Json)} (h : ∀ f ∈ fields, IsPlain f.2) : IsPlain (.object fields)

/-! ## Tokens of a document -/

/-- The tokens that write a document. -/
def tokens : Json → List Token
  | .null => [.scalar .null]
  | .bool b => [.scalar (.bool b)]
  | .number n => [.scalar (.number n)]
  | .string content => [.scalar (.string content)]
  | .array items => .openArray :: [Token.comma].intercalate (items.attach.map fun v => tokens v.1) ++
      [.closeArray]
  | .object fields => .openObject :: [Token.comma].intercalate
      (fields.attach.map fun f => .scalar (.string f.1.1) :: .colon :: tokens f.1.2) ++ [.closeObject]
termination_by j => sizeOf j
decreasing_by
  · exact sizeOf_item_lt v.2
  · exact sizeOf_field_lt f.2

theorem tokens_array (items : List Json) : tokens (.array items) =
    .openArray :: [Token.comma].intercalate (items.map tokens) ++ [.closeArray] := by
  rw [tokens, List.attach_map_val (f := tokens)]

/-- The tokens that write a field. -/
def fieldTokens (f : Bytes × Json) : List Token :=
  .scalar (.string f.1) :: .colon :: tokens f.2

theorem tokens_object (fields : List (Bytes × Json)) : tokens (.object fields) =
    .openObject :: [Token.comma].intercalate (fields.map fieldTokens) ++ [.closeObject] := by
  rw [tokens]
  exact congrArg (fun l => .openObject :: [Token.comma].intercalate l ++ [.closeObject])
    (List.attach_map_val (f := fieldTokens))

/-! ## Parsing them -/

namespace Parser

/-- The parser may be given a value. -/
def Takes (expected : Expected) : Prop := expected = .value ∨ expected = .valueOrEnd

/-- The parser may be given a key. -/
def TakesKey (expected : Expected) : Prop := expected = .key ∨ expected = .keyOrEnd

/-- Where a value may come, the tokens of this document put it there. -/
def Places (j : Json) : Prop :=
  ∀ expected stack, Takes expected → feedAll ⟨expected, stack⟩ (tokens j) = place j stack

theorem feedAll_cons {p p' : Parser} {t : Token} (h : p.feed t = some p') (ts : List Token) :
    p.feedAll (t :: ts) = p'.feedAll ts := by
  rw [feedAll, h]
  rfl

theorem feedAll_singleton (p : Parser) (t : Token) : p.feedAll [t] = p.feed t := by
  rw [feedAll]
  exact Option.bind_fun_some _

/-- Items between commas are added to the array that is open. -/
theorem feedAll_items {items : List Json} (hne : items ≠ []) (h : ∀ v ∈ items, Places v)
    {expected : Expected} (htakes : Takes expected) (added : List Json) (stack : List Frame) :
    feedAll ⟨expected, .array added :: stack⟩ ([Token.comma].intercalate (items.map tokens)) =
      some ⟨.commaOrEnd, .array (items.reverse ++ added) :: stack⟩ := by
  induction items generalizing expected added with
  | nil => exact absurd rfl hne
  | cons v items ih =>
    have hv := h v (by simp) expected (.array added :: stack) htakes
    cases items with
    | nil => simpa [place] using hv
    | cons v' items =>
      have hlater := ih (by simp) (fun w hw => h w (List.mem_cons_of_mem v hw))
        (.inl rfl : Takes .value) (v :: added)
      rw [List.map_cons, List.map_cons, List.intercalate_cons_cons, List.append_assoc,
        feedAll_append, hv, place, Option.bind_some, List.singleton_append, feedAll_cons rfl,
        ← List.map_cons, hlater]
      simp

/-- Fields between commas are added to the object that is open. -/
theorem feedAll_fields {fields : List (Bytes × Json)} (hne : fields ≠ [])
    (h : ∀ f ∈ fields, Places f.2) {expected : Expected} (htakes : TakesKey expected)
    (added : List (Bytes × Json)) (stack : List Frame) :
    feedAll ⟨expected, .object added :: stack⟩
        ([Token.comma].intercalate (fields.map fieldTokens)) =
      some ⟨.commaOrEnd, .object (fields.reverse ++ added) :: stack⟩ := by
  induction fields generalizing expected added with
  | nil => exact absurd rfl hne
  | cons f fields ih =>
    have hkey : feed ⟨expected, .object added :: stack⟩ (.scalar (.string f.1)) =
        some ⟨.colon f.1, .object added :: stack⟩ := by
      rcases htakes with rfl | rfl <;> rfl
    have hf : feedAll ⟨expected, .object added :: stack⟩ (fieldTokens f) =
        some ⟨.commaOrEnd, .object (f :: added) :: stack⟩ := by
      rw [fieldTokens, feedAll_cons hkey, feedAll_cons rfl,
        h f (by simp) .value (.field added f.1 :: stack) (.inl rfl)]
      rfl
    cases fields with
    | nil => simpa using hf
    | cons f' fields =>
      have hlater := ih (by simp) (fun w hw => h w (List.mem_cons_of_mem f hw))
        (.inl rfl : TakesKey .key) (f :: added)
      rw [List.map_cons, List.map_cons, List.intercalate_cons_cons, List.append_assoc,
        feedAll_append, hf, Option.bind_some, List.singleton_append, feedAll_cons rfl,
        ← List.map_cons, hlater]
      simp

theorem places_scalar {j : Json} (h : tokens j = [.scalar j]) : Places j := by
  intro expected stack htakes
  have hfeed : feed ⟨expected, stack⟩ (.scalar j) = place j stack := by
    rcases htakes with rfl | rfl <;> rfl
  rw [h, feedAll_singleton, hfeed]

theorem places_array {items : List Json} (h : ∀ v ∈ items, Places v) : Places (.array items) := by
  intro expected stack htakes
  have hopen : feed ⟨expected, stack⟩ .openArray = some ⟨.valueOrEnd, .array [] :: stack⟩ := by
    rcases htakes with rfl | rfl <;> rfl
  rw [tokens_array, List.cons_append, feedAll_cons hopen, feedAll_append]
  by_cases hne : items = []
  · subst hne
    exact feedAll_singleton _ _
  · rw [feedAll_items hne h (.inr rfl), Option.bind_some, List.append_nil, feedAll_singleton]
    show place (.array items.reverse.reverse) stack = _
    rw [List.reverse_reverse]

theorem places_object {fields : List (Bytes × Json)} (h : ∀ f ∈ fields, Places f.2) :
    Places (.object fields) := by
  intro expected stack htakes
  have hopen : feed ⟨expected, stack⟩ .openObject = some ⟨.keyOrEnd, .object [] :: stack⟩ := by
    rcases htakes with rfl | rfl <;> rfl
  rw [tokens_object, List.cons_append, feedAll_cons hopen, feedAll_append]
  by_cases hne : fields = []
  · subst hne
    exact feedAll_singleton _ _
  · rw [feedAll_fields hne h (.inr rfl), Option.bind_some, List.append_nil, feedAll_singleton]
    show place (.object fields.reverse.reverse) stack = _
    rw [List.reverse_reverse]

end Parser

/-- Where a value may come, the tokens of a document put it there. -/
theorem feedAll_tokens {j : Json} (h : j.IsPlain) : Parser.Places j := by
  induction h with
  | null => exact Parser.places_scalar (by rw [tokens])
  | bool value => exact Parser.places_scalar (by rw [tokens])
  | number hn => exact Parser.places_scalar (by rw [Json.ofNat, tokens])
  | string content => exact Parser.places_scalar (by rw [tokens])
  | array _ ih => exact Parser.places_array ih
  | object _ ih => exact Parser.places_object ih

/-! ## Printing them -/

theorem writes_word {b : UInt8} {missing : Bytes} {value : Json}
    (hstart : Lexeme.start b = some ([], .word missing value)) (hne : missing ≠ []) :
    Writes (b :: missing) [.scalar value] := by
  intro rest _
  have hword : ∀ {missing : Bytes}, missing ≠ [] →
      lex (.word missing value) (missing ++ rest) =
        (lex .gap rest).map ([Token.scalar value] ++ ·) := by
    intro missing hne
    induction missing with
    | nil => exact absurd rfl hne
    | cons m missing ih =>
      cases missing with
      | nil => exact lex_cons (by simp [Lexeme.advance]) rest
      | cons m' missing =>
        rw [List.cons_append, lex_push (k := .word (m' :: missing) value)]
        · exact ih (by simp)
        · simp [Lexeme.advance]
  rw [List.cons_append, lex_push (l := .gap) hstart]
  exact hword hne

theorem writes_null : Writes printNull [.scalar .null] :=
  writes_word rfl (by simp)

theorem writes_bool (value : Bool) : Writes (printBool value) [.scalar (.bool value)] := by
  cases value <;> exact writes_word rfl (by simp)

theorem writes_number {n : Nat} (h : n < 2 ^ 64) :
    Writes (printNumeral (.ofNat n)) [.scalar (.ofNat n)] := by
  have hsize : n < UInt64.size := h
  have hprint : printNumeral (.ofNat n) = decimal n := by
    have hlow : Int64.minValue.toInt ≤ (n : Int) :=
      Int.le_trans (by decide) (Int.natCast_nonneg n)
    have hinteger : isInteger64 (.ofNat n) = true := by
      simp only [isInteger64, Numeral.int?_ofNat, Bool.and_eq_true, decide_eq_true_eq]
      exact ⟨hlow, by omega⟩
    rw [printNumeral, if_pos hinteger, List.append_nil]
    rfl
  rw [hprint]
  exact writes_decimal n

/-- A field writes its key, a colon and its value. -/
theorem writes_field {colon value : Bytes} (hcolon : Separates colon [.colon]) {f : Bytes × Json}
    (h : Writes value (tokens f.2)) :
    Writes (printString f.1 ++ colon ++ value) (fieldTokens f) := by
  rw [List.append_assoc]
  have hvalue := hcolon.append_writes h
  intro rest hrest
  rw [List.append_assoc, writes_string f.1 _ (by rw [List.append_assoc]; exact hcolon.ends _),
    hvalue rest hrest, Option.map_map]
  rfl

/-- Items, one a line, between two brackets. -/
theorem writes_block {α : Type} {text : α → Bytes} {tokens : α → List Token} {opening closing : UInt8}
    {o c : Token} (hopening : Separates [opening] [o]) (hclosing : Separates [closing] [c])
    (level : Nat) {items : List α} (h : ∀ a ∈ items, Writes (text a) (tokens a)) :
    Writes (block level opening closing (items.map text))
      (o :: [Token.comma].intercalate (items.map tokens) ++ [c]) := by
  by_cases hne : items = []
  · subst hne
    exact (hopening.append hclosing).writes
  · have hprint : block level opening closing (items.map text) =
        ([opening] ++ newLine (level + 1)) ++
          ([0x2C] ++ newLine (level + 1)).intercalate (items.map text) ++
          (newLine level ++ [closing]) := by
      simp [block, hne]
    have hfirst := hopening.append (separates_newLine (level + 1))
    have hsep := separates_comma.append (separates_newLine (level + 1))
    have hlast := (separates_newLine level).append hclosing
    rw [List.append_nil] at hfirst hsep
    rw [hprint]
    exact writes_list hfirst hsep hlast h

/-- A document that is printed with one item a line writes its tokens. -/
theorem writes_pretty {j : Json} (h : j.IsPlain) (level : Nat) : Writes (pretty level j) (tokens j) := by
  induction h generalizing level with
  | null =>
    rw [pretty, tokens]
    exact writes_null
  | bool value =>
    rw [pretty, tokens]
    exact writes_bool value
  | number hn =>
    rw [Json.ofNat, pretty, tokens]
    exact writes_number hn
  | string content =>
    rw [pretty, tokens]
    exact writes_string content
  | array _ ih =>
    rw [pretty_array, tokens_array]
    exact writes_block separates_openArray separates_closeArray level fun v hv => ih v hv (level + 1)
  | object _ ih =>
    rw [pretty_object, tokens_object]
    exact writes_block separates_openObject separates_closeObject level fun f hf =>
      writes_field (separates_colon.append separates_blank) (ih f hf (level + 1))

/-- A document that is printed without blanks writes its tokens. -/
theorem writes_compact {j : Json} (h : j.IsPlain) : Writes (compact j) (tokens j) := by
  induction h with
  | null =>
    rw [compact, tokens]
    exact writes_null
  | bool value =>
    rw [compact, tokens]
    exact writes_bool value
  | number hn =>
    rw [Json.ofNat, compact, tokens]
    exact writes_number hn
  | string content =>
    rw [compact, tokens]
    exact writes_string content
  | array _ ih =>
    rw [compact_array, tokens_array]
    exact writes_list separates_openArray separates_comma separates_closeArray ih
  | object _ ih =>
    rw [compact_object, tokens_object]
    refine writes_list separates_openObject separates_comma separates_closeObject fun f hf => ?_
    have hfield := writes_field separates_colon (ih f hf)
    rwa [List.append_assoc] at hfield

/-! ## The round trip -/

/-- A text that writes the tokens of a document is read as this document. -/
theorem parse?_of_writes {j : Json} (h : j.IsPlain) {text : Bytes} (hwrites : Writes text (tokens j)) :
    parse? text = some j := by
  have hplace : Parser.feedAll .start (tokens j) = Parser.place j [] :=
    feedAll_tokens h .value [] (.inl rfl)
  rw [parse?_eq, hwrites.lex_eq, Option.bind_some, hplace]
  rfl

theorem parse?_pretty {j : Json} (h : j.IsPlain) (level : Nat) : parse? (pretty level j) = some j :=
  parse?_of_writes h (writes_pretty h level)

theorem parse?_compact {j : Json} (h : j.IsPlain) : parse? (compact j) = some j :=
  parse?_of_writes h (writes_compact h)

end DeviceBus.Json
