import Mathlib.Data.List.Forall2
import ByteRecord.Proofs.Specification.Run

/-! Patterns in specification texts: what is read is a pattern of the grammar, and every pattern of
the grammar is read. -/
namespace ByteRecord
open Source

theorem mapM_ok_iff {f : α → Except ε β} {list : List α} {results : List β} :
    list.mapM f = .ok results ↔ List.Forall₂ (fun a b => f a = .ok b) list results := by
  induction list generalizing results with
  | nil =>
    rw [List.mapM_nil, List.forall₂_nil_left_iff]
    exact ⟨fun same => (Except.ok.inj same).symm, fun same => same ▸ rfl⟩
  | cons first rest ih =>
    rw [List.mapM_cons, List.forall₂_cons_left_iff, bind_ok_iff]
    constructor
    · rintro ⟨result, own, later⟩
      obtain ⟨others, each, made⟩ := bind_ok_iff.mp later
      cases made
      exact ⟨result, others, own, ih.mp each, rfl⟩
    · rintro ⟨result, others, own, each, rfl⟩
      exact ⟨result, own, bind_ok_iff.mpr ⟨others, ih.mpr each, rfl⟩⟩

theorem exists_of_forall₂ (each : List.Forall₂ R list results) (present : result ∈ results) :
    ∃ value ∈ list, R value result := by
  induction each with
  | nil => cases present
  | cons own _ ih =>
    rcases List.mem_cons.mp present with rfl | later
    · exact ⟨_, List.mem_cons_self, own⟩
    · obtain ⟨value, among, own⟩ := ih later
      exact ⟨value, List.mem_cons_of_mem _ among, own⟩

theorem mapM_error_iff {f : α → Except ε β} {list : List α} :
    list.mapM f = .error error ↔ ∃ before value after, list = before ++ value :: after ∧
      (∀ other ∈ before, ∃ result, f other = .ok result) ∧ f value = .error error := by
  induction list with
  | nil =>
    constructor
    · intro failed
      cases failed
    · rintro ⟨before, _, _, same, -⟩
      simp at same
  | cons first rest ih =>
    rw [List.mapM_cons, bind_error_iff]
    constructor
    · rintro (own | ⟨result, own, later⟩)
      · exact ⟨[], first, rest, rfl, List.forall_mem_nil _, own⟩
      · rcases bind_error_iff.mp later with failed | ⟨_, -, made⟩
        · obtain ⟨before, value, after, rfl, passed, failed⟩ := ih.mp failed
          exact ⟨first :: before, value, after, rfl,
            List.forall_mem_cons.mpr ⟨⟨result, own⟩, passed⟩, failed⟩
        · cases made
    · rintro ⟨before, value, after, same, passed, failed⟩
      cases before with
      | nil =>
        obtain ⟨rfl, -⟩ := List.cons.inj same
        exact .inl failed
      | cons other before =>
        obtain ⟨rfl, rfl⟩ := List.cons.inj same
        obtain ⟨⟨result, own⟩, passed⟩ := List.forall_mem_cons.mp passed
        exact .inr ⟨result, own,
          bind_error_iff.mpr (.inl (ih.mpr ⟨before, value, after, rfl, passed, failed⟩))⟩

theorem exists_of_mapM_error {f : α → Except ε β} {list : List α}
    (failed : list.mapM f = .error error) : ∃ value ∈ list, f value = .error error := by
  obtain ⟨before, value, after, rfl, -, own⟩ := mapM_error_iff.mp failed
  exact ⟨value, List.mem_append_right _ List.mem_cons_self, own⟩

namespace Pattern

theorem exactByte_ok_iff : exactByte value = .ok matcher ↔
    0 ≤ value ∧ value ≤ 255 ∧ matcher = .exact value := by
  unfold exactByte
  split
  · next within =>
    simp only [Bool.and_eq_true, decide_eq_true_eq] at within
    simp [within, eq_comm]
  · next beyond =>
    simp only [Bool.and_eq_true, decide_eq_true_eq, not_and] at beyond
    exact ⟨nofun, fun ⟨natural, small, _⟩ => absurd small (beyond natural)⟩

theorem isLiteralExpr_of_ungroup {e : Expr} (constant : e.ungroup = .const value) :
    isLiteralExpr e = true := by
  fun_induction Expr.ungroup e with
  | case1 inner ih => exact ih constant
  | case2 e =>
    rw [constant]
    rfl

/-- The bytes that literals with at most one sign spell. -/
theorem isElement_of_literalInt? {e : Expr} {text : List Char} (spelt : literalInt? e = some n)
    (natural : 0 ≤ n) (small : n ≤ 255) : Phrase.IsElement location ⟨e, text⟩ (.exact n) := by
  unfold literalInt? at spelt
  split at spelt
  · next value =>
    cases spelt
    exact .byte (by omega)
  · split at spelt
    · next value literal =>
      cases spelt
      exact .positive (by omega) literal
    · next value literal =>
      cases spelt
      obtain rfl : value = 0 := by omega
      exact .negative literal
    · cases spelt
  · cases spelt

theorem elementMatcher_of_literalInt? {location : Location} {e : Expr} {text : List Char}
    (range : isRangeExpr e = false) (name : e ≠ .name "_") (whole : ∀ inner, e ≠ .starred inner)
    (literal : isLiteralExpr e = true) (spelt : literalInt? e = some n) (natural : 0 ≤ n)
    (small : n ≤ 255) : elementMatcher location ⟨e, text⟩ = .ok (.exact n) := by
  have byte : exactByte n = .ok (.exact n) := exactByte_ok_iff.mpr ⟨natural, small, rfl⟩
  simp only [elementMatcher, range, literal, spelt, byte, if_true, Bool.false_eq_true, if_false]
  rfl

theorem elementMatcher_ok_iff {location : Location} {element : Expr.Element} {matcher : Matcher} :
    elementMatcher location element = .ok matcher ↔
      Phrase.IsElement location element matcher := by
  obtain ⟨e, text⟩ := element
  constructor
  · intro read
    unfold elementMatcher at read
    extract_lets source refuse at read
    split at read
    · cases read
    · next range =>
      rw [Bool.not_eq_true] at range
      dsimp only at read range
      split at read
      · cases read
        exact .wildcard
      · cases read
      · next named whole =>
        split at read
        · split at read
          · next n spelt =>
            obtain ⟨natural, small, rfl⟩ := exactByte_ok_iff.mp (mapError_ok_iff.mp read)
            exact isElement_of_literalInt? spelt natural small
          · cases read
        · next literal =>
          rw [Bool.not_eq_true] at literal
          obtain ⟨code, compiled, made⟩ := bind_ok_iff.mp read
          cases made
          exact .computed whole named range literal (Reading.codeOf_ok_iff.mp compiled)
  · intro own
    cases own with
    | wildcard => rfl
    | byte small => exact elementMatcher_of_literalInt? rfl nofun nofun rfl rfl (by omega) (by omega)
    | @positive operand text n small literal =>
      have spelt : literalInt? (.unary .plus operand) = some (n : Int) := by
        simp only [literalInt?, literal]
      exact elementMatcher_of_literalInt? rfl nofun nofun
        (isLiteralExpr_of_ungroup (e := operand) literal) spelt (by omega) (by omega)
    | @negative operand text literal =>
      have spelt : literalInt? (.unary .minus operand) = some 0 := by
        simp only [literalInt?, literal]
        rfl
      exact elementMatcher_of_literalInt? rfl nofun nofun
        (isLiteralExpr_of_ungroup (e := operand) literal) spelt (by omega) (by omega)
    | computed whole named range literal compiled =>
      have read : Expression.codeOf (some location) .pattern text = .ok _ :=
        Reading.codeOf_ok_iff.mpr compiled
      simp only [elementMatcher, range, literal, read, Bool.false_eq_true, if_false]
      rfl

theorem ofTokens_fixed_ok_iff {pieces : List Hex.Token} {pattern : Pattern} :
    ofTokens pieces false = .ok pattern ↔
      .openRange ∉ pieces ∧ pattern = ⟨pieces.map Matcher.ofToken, .hex⟩ := by
  have ranges : 0 < (pieces.filter (· == .openRange)).length ↔ .openRange ∈ pieces := by
    simp [List.length_pos_iff_exists_mem]
  by_cases range : Hex.Token.openRange ∈ pieces
  · simp [ofTokens, ranges, range]
  · have few : ¬1 < (pieces.filter (· == .openRange)).length := by
      rw [← ranges] at range
      omega
    simp [ofTokens, ranges, range, few, eq_comm]

/-- A hex literal without a range is read as its pieces. -/
theorem ofHex_ok_iff {digits : List Char} {pattern : Pattern} :
    ofHex digits = .ok pattern ↔ ∃ pieces, Hex.tokenize digits = .ok pieces ∧
      .openRange ∉ pieces ∧ pattern = ⟨pieces.map Matcher.ofToken, .hex⟩ := by
  rw [ofHex]
  cases Hex.tokenize digits with
  | error fault => exact ⟨nofun, nofun⟩
  | ok pieces => simp [ofLexed, ofTokens_fixed_ok_iff]

theorem ofLiteral_ok_iff {token : Token} (literal : token.kind = .string) {pattern : Pattern} :
    ofLiteral token.text token.start = .ok pattern ↔
      Phrase.IsPattern source [token] pattern := by
  constructor
  · intro read
    by_cases null : '\x00' ∈ token.text.toList
    · have found : token.text.toList.contains '\x00' = true := by simpa using null
      simp only [ofLiteral, found, if_true] at read
      cases read
    · have clear : token.text.toList.contains '\x00' = false := by simpa using null
      simp only [ofLiteral, clear, Bool.false_eq_true, if_false] at read
      split at read
      · next data value =>
        cases read
        exact .bytes literal null value
      · next digits value =>
        obtain ⟨pieces, lexed, fixed, rfl⟩ := ofHex_ok_iff.mp (mapError_ok_iff.mp read)
        exact .hex literal null value lexed fixed
      · cases read
  · intro own
    cases own with
    | hex _ clear value lexed fixed =>
      have null : token.text.toList.contains '\x00' = false := by simpa using clear
      simp only [ofLiteral, null, Bool.false_eq_true, if_false, value]
      exact mapError_ok_iff.mpr (ofHex_ok_iff.mpr ⟨_, lexed, fixed, rfl⟩)
    | bytes _ clear value =>
      have null : token.text.toList.contains '\x00' = false := by simpa using clear
      simp only [ofLiteral, null, Bool.false_eq_true, if_false, value]
    | array opening =>
      rw [Token.kind_of_isOp opening] at literal
      cases literal

theorem ofDisplay_ok_iff {first : Token} (opening : first.isOp "[")
    (closed : IsRun true 0 (first :: rest)) {pattern : Pattern} :
    ofDisplay (spanned source (first :: rest)) first.start = .ok pattern ↔
      Phrase.IsPattern source (first :: rest) pattern := by
  constructor
  · intro read
    unfold ofDisplay at read
    extract_lets text refuse at read
    split at read
    · cases read
    · next clear =>
      split at read
      · cases read
      · cases read
      · next elements display =>
        obtain ⟨matchers, each, made⟩ := bind_ok_iff.mp read
        cases made
        exact .array opening closed (by simpa using clear) display
          ((mapM_ok_iff.mp each).imp fun _ _ => elementMatcher_ok_iff.mp)
  · intro own
    have no_literal : first.kind ≠ .string := by
      rw [Token.kind_of_isOp opening]
      nofun
    cases own with
    | hex literal => exact absurd literal no_literal
    | bytes literal => exact absurd literal no_literal
    | array _ _ clear display each =>
      have null : (Text.trim (spanned source (first :: rest))).contains '\x00' = false := by
        simpa using clear
      simp only [ofDisplay, null, Bool.false_eq_true, if_false, display]
      exact bind_ok_iff.mpr
        ⟨_, mapM_ok_iff.mpr (each.imp fun _ _ => elementMatcher_ok_iff.mpr), rfl⟩

theorem run_read_literal {cursor : Cursor} (faces : cursor.Faces (token :: rest))
    (literal : token.kind = .string) :
    read.run cursor = (ofLiteral token.text token.start, cursor.moved 1) := by
  have further : token.kind ≠ .finish := by
    rw [literal]
    nofun
  rw [read, Reading.run_get_bind]
  simp only [faces.current, literal, beq_self_eq_true, if_true]
  rw [run_bind, Reading.run_next faces further]
  exact run_lift _ _

theorem run_read_display {cursor : Cursor} (faces : cursor.Faces (token :: rest))
    (opening : token.isOp "[") :
    read.run cursor = (Reading.takeExpression true .pattern >>= fun (text, location) =>
      liftM (ofDisplay text location)).run cursor := by
  have kind := Token.kind_of_isOp opening
  rw [read, Reading.run_get_bind]
  simp only [faces.current, kind, faces.atOp, opening, if_true]
  rfl

theorem run_read_of_pattern {cursor : Cursor} (faces : cursor.Faces (tokens ++ rest))
    (own : Phrase.IsPattern cursor.source tokens pattern) (stops : Stops true rest) :
    read.run cursor = (.ok pattern, cursor.moved tokens.length) := by
  have literal_read (token : Token) (literal : token.kind = .string)
      (faces : cursor.Faces ([token] ++ rest))
      (own : Phrase.IsPattern cursor.source [token] pattern) :
      read.run cursor = (.ok pattern, cursor.moved 1) := by
    rw [run_read_literal faces literal, (ofLiteral_ok_iff literal).mpr own]
  have whole := own
  cases own with
  | hex literal => exact literal_read _ literal faces whole
  | bytes literal => exact literal_read _ literal faces whole
  | array opening closed =>
    have taken := Reading.takeExpression_of_run faces closed stops .pattern
    rw [run_read_display faces opening, run_bind, taken]
    simp only [(ofDisplay_ok_iff opening closed).mpr whole]
    exact run_lift _ _

/-- What is read as a pattern is one, unless it is all that is left. -/
theorem of_run_read {cursor after : Cursor} (faces : cursor.Faces ahead)
    (result : read.run cursor = (.ok pattern, after)) :
    ∃ tokens stop rest, ahead = tokens ++ stop :: rest ∧ after = cursor.moved tokens.length ∧
      after.Faces (stop :: rest) ∧
      (stop.kind ≠ .finish → Phrase.IsPattern cursor.source tokens pattern) := by
  obtain ⟨token, later, rfl⟩ := faces.ended.exists_cons
  by_cases literal : token.kind = .string
  · have further : token.kind ≠ .finish := by
      rw [literal]
      nofun
    rw [run_read_literal faces literal, Prod.mk.injEq] at result
    obtain ⟨own, rfl⟩ := result
    obtain ⟨stop, rest, rfl⟩ := (faces.ended.tail further).exists_cons
    exact ⟨[token], stop, rest, rfl, rfl, faces.next further,
      fun _ => (ofLiteral_ok_iff literal).mp own⟩
  · by_cases opening : token.isOp "["
    · rw [run_read_display faces opening, run_bind_ok_iff] at result
      obtain ⟨⟨text, location⟩, middle, taken, result⟩ := result
      obtain ⟨first, run, stop, rest, parts, moved, left, rfl, rfl, closed⟩ :=
        Reading.of_takeExpression faces taken
      obtain ⟨rfl, -⟩ := List.cons.inj parts
      have same : (ofDisplay (spanned cursor.source (token :: run)) token.start, middle) =
          (.ok pattern, after) := (run_lift _ _).symm.trans result
      obtain ⟨own, rfl⟩ := Prod.mk.inj same
      exact ⟨_, _, _, parts, moved, left, fun other =>
        (ofDisplay_ok_iff opening (closed other).1).mp own⟩
    · have kind : (token.kind == .string) = false := by simpa using literal
      rw [Bool.not_eq_true] at opening
      rw [read, Reading.run_get_bind] at result
      simp only [faces.current, kind, faces.atOp, opening, Bool.false_eq_true, if_false,
        Reading.run_fail] at result
      cases result

end Pattern
end ByteRecord
