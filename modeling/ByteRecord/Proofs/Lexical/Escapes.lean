import ByteRecord.Proofs.Hex.Segments
import ByteRecord.Proofs.Lexical.Literals

/-! Characters as a string literal in single or double quotes spells them: as they are, or as one of
the usual escapes. -/
namespace ByteRecord.Lexical

/-- Characters and the text between the quotes that spells them. -/
inductive Spelt (quote : Char) : List Char → List Char → Prop
  | nil : Spelt quote [] []
  | plain (unquoted : c ≠ quote) (unguarded : c ≠ '\\') (unbroken : c ≠ '\n' ∧ c ≠ '\r')
      (rest : Spelt quote chars body) : Spelt quote (c :: chars) (c :: body)
  | lineFeed (rest : Spelt quote chars body) : Spelt quote ('\n' :: chars) ('\\' :: 'n' :: body)
  | carriageReturn (rest : Spelt quote chars body) :
    Spelt quote ('\r' :: chars) ('\\' :: 'r' :: body)
  | tab (rest : Spelt quote chars body) : Spelt quote ('\t' :: chars) ('\\' :: 't' :: body)
  | code (high low : Hex.Digit) (rest : Spelt quote chars body) :
    Spelt quote (Char.ofNat (16 * high.value + low.value) :: chars)
      ('\\' :: 'x' :: high.char :: low.char :: body)

namespace Spelt
variable {quote : Char} {chars body : List Char}

/-- Characters that mean nothing in double quotes spell themselves there. -/
theorem of_verbatim (verbatim : IsVerbatim chars) : Spelt '"' chars chars := by
  induction chars with
  | nil => exact .nil
  | cons c chars ih =>
    obtain ⟨unquoted, unguarded, unbroken⟩ := verbatim c List.mem_cons_self
    exact .plain unquoted unguarded unbroken
      (ih fun d present => verbatim d (List.mem_cons_of_mem c present))

theorem isBody (spelt : Spelt quote chars body) (quoted : quote = '\'' ∨ quote = '"')
    (letters : List Char) : IsBody ⟨letters, quote, false⟩ (body ++ [quote]) := by
  have digit (own : Hex.Digit) : own.char ≠ '\\' ∧ own.char ≠ quote ∧ own.char ≠ '\n' := by
    rcases quoted with rfl | rfl <;> exact ⟨own.char_ne rfl, own.char_ne rfl, own.char_ne rfl⟩
  induction spelt with
  | nil => exact .single rfl
  | plain unquoted unguarded unbroken _ ih =>
    exact .further unguarded (fun same => absurd same unquoted)
      (fun same => absurd same unbroken.1) ih
  | lineFeed _ ih => exact .guarded ih
  | carriageReturn _ ih => exact .guarded ih
  | tab _ ih => exact .guarded ih
  | code high low _ ih =>
    obtain ⟨high_guard, high_quote, high_break⟩ := digit high
    obtain ⟨low_guard, low_quote, low_break⟩ := digit low
    exact .guarded (.further high_guard (fun same => absurd same high_quote)
      (fun same => absurd same high_break) (.further low_guard (fun same => absurd same low_quote)
        (fun same => absurd same low_break) ih))

theorem head_ne_quote (spelt : Spelt quote chars body) (quoted : quote = '\'' ∨ quote = '"') :
    ∀ c ∈ body.head?, c ≠ quote := by
  have guarded : '\\' ≠ quote := by rcases quoted with rfl | rfl <;> decide
  rintro c first
  cases spelt with
  | nil => cases first
  | plain unquoted =>
    cases first
    exact unquoted
  | lineFeed | carriageReturn | tab | code =>
    cases first
    exact guarded

/-- Everything that stands in a spelling and is no character itself belongs to an escape. -/
theorem of_mem_body (spelt : Spelt quote chars body) (present : c ∈ body) :
    c ∈ chars ∨ c ∈ ['\\', 'n', 'r', 't', 'x'] ∨ (Hex.digitValue? c).isSome := by
  have digit (own : Hex.Digit) : (Hex.digitValue? own.char).isSome := by
    rw [own.digitValue?_char]
    rfl
  induction spelt with
  | nil => cases present
  | plain _ _ _ _ ih =>
    rcases List.mem_cons.mp present with rfl | later
    · exact .inl List.mem_cons_self
    · exact (ih later).imp_left (List.mem_cons_of_mem _)
  | lineFeed _ ih | carriageReturn _ ih | tab _ ih =>
    simp only [List.mem_cons] at present
    rcases present with rfl | rfl | later
    · exact .inr (.inl (by decide))
    · exact .inr (.inl (by decide))
    · exact (ih later).imp_left (List.mem_cons_of_mem _)
  | code high low _ ih =>
    simp only [List.mem_cons] at present
    rcases present with rfl | rfl | rfl | rfl | later
    · exact .inr (.inl (by decide))
    · exact .inr (.inl (by decide))
    · exact .inr (.inr (digit high))
    · exact .inr (.inr (digit low))
    · exact (ih later).imp_left (List.mem_cons_of_mem _)

/-- A carriage return never stands in a spelling, only its escape. -/
theorem no_carriageReturn (spelt : Spelt quote chars body) : '\r' ∉ body := by
  have digit (own : Hex.Digit) : '\r' ≠ own.char := (own.char_ne rfl).symm
  induction spelt with
  | nil => exact List.not_mem_nil
  | plain _ _ unbroken _ ih => simpa [ih] using unbroken.2.symm
  | lineFeed _ ih | carriageReturn _ ih | tab _ ih => simpa using ih
  | code high low _ ih => simpa [ih] using ⟨digit high, digit low⟩

end Spelt

section
variable {quote : Char} {body letters : List Char}

theorem openingAfter?_quote (quoted : quote = '\'' ∨ quote = '"')
    (known : isStringPrefix letters) (apart : ∀ c ∈ body.head?, c ≠ quote) :
    openingAfter? letters (quote :: (body ++ [quote])) = some ⟨letters, quote, false⟩ := by
  have quotes : (quote == '\'' || quote == '"') = true := by
    rcases quoted with rfl | rfl <;> rfl
  cases body with
  | nil => simp [openingAfter?, quotes, known]
  | cons c body =>
    have other : (c == quote) = false := beq_eq_false_iff_ne.mpr (apart c rfl)
    cases body <;> simp [openingAfter?, quotes, known, other]

theorem opening?_unlettered (quoted : quote = '\'' ∨ quote = '"')
    (apart : ∀ c ∈ body.head?, c ≠ quote) :
    opening? (quote :: (body ++ [quote])) = some ⟨[], quote, false⟩ := by
  rw [opening?, openingAfter?_quote quoted (by decide) apart]
  rfl

theorem opening?_lettered (quoted : quote = '\'' ∨ quote = '"') (known : isStringPrefix [letter])
    (unquoted : letter ≠ '\'' ∧ letter ≠ '"') (apart : ∀ c ∈ body.head?, c ≠ quote) :
    opening? (letter :: quote :: (body ++ [quote])) = some ⟨[letter], quote, false⟩ := by
  have not_yet : openingAfter? [] (letter :: quote :: (body ++ [quote])) = none := by
    simp [openingAfter?, unquoted]
  rw [opening?, not_yet]
  change (openingAfter? [letter] (quote :: (body ++ [quote]))).orElse _ = _
  rw [openingAfter?_quote quoted known apart]
  rfl

theorem literalWidth?_of_isBody {opening : Opening}
    (opens : opening? text = some opening) (own : IsBody opening (text.drop opening.width)) :
    literalWidth? text = some text.length := by
  have width := width_opening? opens
  have closes := own.closeWidth? (quote_ne_backslash opens) []
  rw [List.append_nil] at closes
  rw [literalWidth?, opens]
  simp only [Option.bind_eq_bind, Option.bind_some, closes, List.length_drop]
  exact congrArg some (Nat.add_sub_cancel' width)

end
end ByteRecord.Lexical
