import Mathlib.Data.Option.Basic
import ByteRecord.Expr.Compile
import ByteRecord.Proofs.Expr.Lexemes
import ByteRecord.Proofs.Expr.Operands
import ByteRecord.Proofs.Lexical.Escapes

/-! String literals as expressions: a literal alone is a constant, and its characters are those that
it spells. -/
namespace ByteRecord.Expr
open Lexical

theorem lexemes?_literal {opening : Opening} (opens : opening? text = some opening)
    (closed : literalWidth? text = some text.length) :
    lexemes? text = some [⟨.string, text, 0⟩] := by
  have something : text ≠ [] := by
    rintro rfl
    cases opens
  have first : head? 0 (text ++ []) = some (.lexeme .string text.length) := by
    rw [List.append_nil]
    exact head?_literal opens closed
  have lexed := lexemesFrom_word 0 text something first rfl
  rw [List.append_nil] at lexed
  rw [lexemes?, lexed]
  rfl

theorem ofLexemes?_literal {value : StringValue} (meaning : stringValue? text = some value)
    (plain : value.fields = []) (joined : joinStrings? [] [value] = some e) :
    ofLexemes? [⟨.string, text, 0⟩] = some e := by
  have read (fuel : Nat) (positive : 0 < fuel) : atom fuel [⟨.string, text, 0⟩] = some (e, []) := by
    obtain ⟨fuel, rfl⟩ : ∃ less, fuel = less + 1 := ⟨fuel - 1, by omega⟩
    simp [atom, meaning, plain, joined]
  have operand (fuel : Nat) (enough : 4 < fuel) :
      operand fuel .factor [⟨.string, text, 0⟩] = some (e, []) :=
    operand_factor_of_atom read .nil rfl rfl enough
  have whole : expression (fuelFor [⟨.string, text, 0⟩]) [⟨.string, text, 0⟩] = some (e, []) := by
    refine expression_of_factor operand .nil rfl rfl ?_
    rw [fuelFor, List.length_singleton]
    omega
  rw [ofLexemes?, whole]
  rfl

theorem ofText?_literal {opening : Opening} {value : StringValue} (unbroken : '\r' ∉ text)
    (opens : opening? text = some opening) (closed : literalWidth? text = some text.length)
    (meaning : stringValue? text = some value) (plain : value.fields = [])
    (joined : joinStrings? [] [value] = some e) : ofText? text = some e := by
  rw [ofText?, unifyLineBreaks_of_free unbroken, lexemes?_literal opens closed]
  exact ofLexemes?_literal meaning plain joined

theorem hexCode?_digits (high low : Hex.Digit) (rest : List Char) :
    hexCode? 2 (high.char :: low.char :: rest) = some (16 * high.value + low.value) := by
  have each (digit : Hex.Digit) : Hex.isDigit digit.char = true := by
    rw [Hex.isDigit, digit.digitValue?_char]
    rfl
  have value : valueIn 16 [high.char, low.char] = 16 * high.value + low.value := by
    simp only [valueIn, List.foldl_cons, List.foldl_nil, Hex.Digit.digitValue?_char,
      Option.getD_some]
    omega
  simp [hexCode?, each, value]

theorem escape?_code (wide : Bool) (high low : Hex.Digit) (rest : List Char) :
    escape? wide ('x' :: high.char :: low.char :: rest) =
      some ([Char.ofNat (16 * high.value + low.value)], 3) := by
  have small := Hex.Segment.byte_lt high low
  have unsplit : ¬0xd800 ≤ 16 * high.value + low.value := by omega
  have within : 16 * high.value + low.value ≤ 0x10ffff := by omega
  have code (text : List Char) : escape? wide ('x' :: text) = (hexCode? 2 text).bind fun n =>
      if n ≤ 0x10ffff then some ([if 0xd800 ≤ n && n ≤ 0xdfff then Char.ofNat 0xfffd
        else Char.ofNat n], 3) else none := rfl
  rw [code, hexCode?_digits]
  simp [unsplit, within]

/-- The characters that a spelling stands for. -/
theorem unescapeFrom_of_spelt (wide : Bool) (spelt : Spelt quote chars body) :
    unescapeFrom wide 0 body = some chars := by
  have skip (count : Nat) (c : Char) (rest : List Char) :
      unescapeFrom wide (count + 1) (c :: rest) = unescapeFrom wide count rest := by
    rw [unescapeFrom]
  have escaped {text found : List Char} (width : Nat)
      (own : escape? wide text = some (found, width)) :
      unescapeFrom wide 0 ('\\' :: text) = (unescapeFrom wide width text).map (found ++ ·) := by
    rw [unescapeFrom, own]
    simp only [Option.bind_eq_bind, Option.bind_some]
    cases unescapeFrom wide width text <;> rfl
  induction spelt with
  | nil => rw [unescapeFrom]
  | plain _ unguarded _ _ ih =>
    rw [unescapeFrom, ih]
    · rfl
    · exact fun same => absurd same unguarded
  | lineFeed _ ih | carriageReturn _ ih | tab _ ih =>
    rw [escaped 1 rfl, skip, ih]
    rfl
  | code high low _ ih =>
    rw [escaped 3 (escape?_code wide high low _), skip, skip, skip, ih]
    rfl

section
variable {quote : Char} {chars body : List Char}

/-- A literal without letters stands for the characters that it spells. -/
theorem ofText?_text (quoted : quote = '\'' ∨ quote = '"') (spelt : Spelt quote chars body) :
    ofText? (quote :: (body ++ [quote])) = some (.const (.str (String.ofList chars))) := by
  have opens := opening?_unlettered quoted (spelt.head_ne_quote quoted)
  have closed := literalWidth?_of_isBody opens (spelt.isBody quoted [])
  have meaning : stringValue? (quote :: (body ++ [quote])) = some (.text chars) := by
    rw [stringValue?, opens]
    simp only [Option.bind_eq_bind, Option.bind_some, List.map_nil]
    simp [Opening.width, unescapeFrom_of_spelt true spelt]
  have unbroken : '\r' ∉ quote :: (body ++ [quote]) := by
    have apart : '\r' ≠ quote := by rcases quoted with rfl | rfl <;> decide
    simp [apart, spelt.no_carriageReturn]
  refine ofText?_literal unbroken opens closed meaning rfl ?_
  simp [joinStrings?, StringValue.isFormatted]

/-- A text of characters that stand for themselves, in double quotes. -/
theorem ofText?_quoted {text : List Char} (verbatim : IsVerbatim text) :
    ofText? ('"' :: text ++ ['"']) = some (.const (.str (String.ofList text))) :=
  ofText?_text (.inr rfl) (.of_verbatim verbatim)

theorem ofText?_bytes (lettered : letter = 'b' ∨ letter = 'B')
    (quoted : quote = '\'' ∨ quote = '"') (spelt : Spelt quote chars body)
    (ascii : body.all Text.isAscii) :
    ofText? (letter :: quote :: (body ++ [quote])) =
      some (.const (.bytes (chars.map fun c => UInt8.ofNat c.toNat))) := by
  have known : isStringPrefix [letter] := by rcases lettered with rfl | rfl <;> decide
  have unquoted : letter ≠ '\'' ∧ letter ≠ '"' := by rcases lettered with rfl | rfl <;> decide
  have opens := opening?_lettered quoted known unquoted (spelt.head_ne_quote quoted)
  have closed := literalWidth?_of_isBody opens (spelt.isBody quoted [letter])
  have meaning : stringValue? (letter :: quote :: (body ++ [quote])) =
      some (.bytes (chars.map fun c => UInt8.ofNat c.toNat)) := by
    have lower : [letter].map Char.toLower = ['b'] := by rcases lettered with rfl | rfl <;> rfl
    rw [stringValue?, opens]
    simp only [Option.bind_eq_bind, Option.bind_some, lower]
    simp [Opening.width, unescapeFrom_of_spelt false spelt, ascii]
  have unbroken : '\r' ∉ letter :: quote :: (body ++ [quote]) := by
    have apart : '\r' ≠ quote := by rcases quoted with rfl | rfl <;> decide
    have other : '\r' ≠ letter := by rcases lettered with rfl | rfl <;> decide
    simp [apart, other, spelt.no_carriageReturn]
  refine ofText?_literal unbroken opens closed meaning rfl ?_
  simp [joinStrings?]

end

end ByteRecord.Expr
