import ByteRecord.Expr.Embedded
import ByteRecord.Proofs.Expr.Beginnings
import ByteRecord.Proofs.Expr.Reading

/-! Embedded expressions: the lexemes between the brackets put around a text. They end before the
closing one, and what is read of them pairs all brackets, those around the text included. -/
namespace ByteRecord.Expr
open Lexical

def Head.width : Head → Nat
  | .lexeme _ width | .pass width => width

theorem literalWidth?_lt (literal : literalWidth? text = some width)
    (last : text.getLast? = some ')') : width < text.length := by
  obtain ⟨opening, opens, literal⟩ := Option.bind_eq_some_iff.mp literal
  obtain ⟨close, closes, same⟩ := Option.bind_eq_some_iff.mp literal
  cases same
  have within := width_opening? opens
  obtain ⟨body, behind, parts, rfl, own⟩ := isBody_of_closeWidth? closes
  have lengths := congrArg List.length parts
  rw [List.length_drop, List.length_append] at lengths
  cases behind with
  | cons c behind =>
    rw [List.length_cons] at lengths
    omega
  | nil =>
    -- then the quote would be the last character
    rw [List.append_nil] at parts
    have whole := List.take_append_drop opening.width text
    rw [parts] at whole
    rw [← whole, List.getLast?_append, own.getLast?, Option.some_or] at last
    rcases quote_of_opening? opens with quote | quote <;> rw [quote] at last <;> cases last

theorem length_takeWhile_le {p : Char → Bool} (stops : p d = false) (front behind : List Char) :
    ((front ++ d :: behind).takeWhile p).length ≤ front.length := by
  induction front with
  | nil => simp [stops]
  | cons c front ih =>
    rw [List.cons_append, List.takeWhile_cons]
    split
    · exact Nat.succ_le_succ ih
    · exact Nat.zero_le _

/-- Whatever begins before the line of a closing bracket ends before the bracket. -/
theorem width_head?_le (found : head? depth (front ++ ['\n', ')']) = some head) :
    head.width ≤ front.length + 1 := by
  cases front with
  | nil =>
    rw [List.nil_append, head?] at found
    split at found <;> cases found <;> exact Nat.le_refl _
  | cons c front =>
    have number := numberWidth_delimited (d := '\n') rfl (c :: front) [')']
    have operator := operatorWidth_delimited (d := '\n') rfl (c :: front) [')'] (by simp)
    have number_le := numberWidth_le (c :: front)
    have operator_le := operatorWidth_le (c :: front)
    have comment_le := length_takeWhile_le (p := (· != '\n')) (d := '\n') rfl front [')']
    have name_le := length_takeWhile_le (p := isNamePart) (d := '\n') rfl (c :: front) [')']
    rw [List.cons_append] at found number operator name_le
    rw [← number] at number_le
    rw [← operator] at operator_le
    rw [List.length_cons] at number_le operator_le name_le ⊢
    unfold head? at found
    split at found
    · next same => cases same
    · cases found
      exact Nat.le_add_left _ _
    · split at found <;> cases found <;> exact Nat.le_add_left _ _
    · next same =>
      cases same
      cases found
      exact Nat.succ_le_succ (Nat.le_succ_of_le comment_le)
    · next same =>
      cases same
      -- a literal ends with a quote, everything else before the line break
      split at found
      · cases found
        exact Nat.le_add_left _ _
      split at found
      · obtain ⟨width, literal, rfl⟩ := Option.map_eq_some_iff.mp found
        have last : (c :: front ++ ['\n', ')']).getLast? = some ')' := by
          rw [List.getLast?_append]
          rfl
        have width_lt := literalWidth?_lt literal last
        simp only [List.length_cons, List.length_append, List.length_nil] at width_lt
        exact Nat.le_of_lt_succ width_lt
      dsimp only at found
      split at found
      · cases found
        exact Nat.le_succ_of_le number_le
      split at found
      · split at found <;> cases found
        exact Nat.le_succ_of_le name_le
      · split at found <;> cases found
        exact Nat.le_succ_of_le operator_le

/-- The closing bracket on a line of its own is the last lexeme. -/
theorem lexemesFrom_enclosed (within : skip ≤ front.length + 1)
    (lexed : lexemesFrom offset skip depth (front ++ ['\n', ')']) = some lexemes) :
    ∃ own, lexemes = own ++ [⟨.op, [')'], offset + front.length + 1⟩] := by
  have last {offset depth : Nat} {lexemes : List Lexeme}
      (lexed : lexemesFrom offset 0 depth [')'] = some lexemes) :
      lexemes = [⟨.op, [')'], offset⟩] := by
    cases depth with
    | zero => cases lexed
    | succ depth =>
      cases lexed
      rfl
  induction front generalizing offset skip depth lexemes with
  | nil =>
    match skip with
    | 1 => exact ⟨[], last lexed⟩
    | 0 =>
      cases depth with
      | zero => cases lexed
      | succ depth =>
        have lexed : lexemesFrom (offset + 1) 0 (depth + 1) [')'] = some lexemes := lexed
        exact ⟨[], last lexed⟩
  | cons c front ih =>
    have further {skip depth : Nat} {lexemes : List Lexeme} (within : skip ≤ front.length + 1)
        (lexed : lexemesFrom (offset + 1) skip depth (front ++ ['\n', ')']) = some lexemes) :
        ∃ own, lexemes = own ++ [⟨.op, [')'], offset + (c :: front).length + 1⟩] := by
      rw [List.length_cons, Nat.add_comm front.length, ← Nat.add_assoc]
      exact ih within lexed
    cases skip with
    | succ skip => exact further (Nat.le_of_succ_le_succ within) lexed
    | zero =>
      rw [List.cons_append, lexemesFrom] at lexed
      cases found : head? depth (c :: (front ++ ['\n', ')'])) with
      | none =>
        rw [found] at lexed
        cases lexed
      | some head =>
        have ends : head.width ≤ (c :: front).length + 1 := width_head?_le found
        have width_le : head.width - 1 ≤ front.length + 1 := Nat.sub_le_of_le_add ends
        rw [found] at lexed
        cases head with
        | pass width => exact further width_le lexed
        | lexeme kind width =>
          dsimp only at lexed
          split at lexed
          · cases lexed
          · obtain ⟨later, behind, rfl⟩ := Option.map_eq_some_iff.mp lexed
            obtain ⟨own, rfl⟩ := further width_le behind
            exact ⟨_ :: own, rfl⟩

theorem exists_unified (text : List Char) :
    ∃ inner, unifyLineBreaks (text ++ ['\n', ')']) = inner ++ ['\n', ')'] := by
  induction text using unifyLineBreaks.induct with
  | case1 => exact ⟨[], rfl⟩
  | case2 rest ih =>
    obtain ⟨inner, unified⟩ := ih
    refine ⟨'\n' :: inner, ?_⟩
    rw [List.cons_append, List.cons_append, unifyLineBreaks, unified, List.cons_append]
  | case3 rest single ih =>
    cases rest with
    | nil => exact ⟨[], rfl⟩
    | cons d rest =>
      obtain ⟨inner, unified⟩ := ih
      refine ⟨'\n' :: inner, ?_⟩
      rw [List.cons_append, List.cons_append, unifyLineBreaks, ← List.cons_append, unified,
        List.cons_append]
      rintro _ ⟨⟩
      exact single rest rfl
  | case4 c rest no_pair no_return ih =>
    obtain ⟨inner, unified⟩ := ih
    refine ⟨c :: inner, ?_⟩
    rw [List.cons_append, unifyLineBreaks, unified, List.cons_append]
    · exact fun _ same => absurd same no_return
    · exact fun same => absurd same no_return

/-- The lexemes of a text are those between the brackets put around it. -/
def Within (text : List Char) (own : List Lexeme) : Prop :=
  ∃ stop, stop + 1 = (unifyLineBreaks (enclose text)).length ∧
    lexemes? (unifyLineBreaks (enclose text)) =
      some (⟨.op, ['('], 0⟩ :: (own ++ [⟨.op, [')'], stop⟩]))

theorem exists_within (lexed : lexemes? (unifyLineBreaks (enclose text)) = some lexemes) :
    ∃ own, Within text own := by
  obtain ⟨inner, unified⟩ := exists_unified text
  have whole : unifyLineBreaks (enclose text) = '(' :: (('\n' :: inner) ++ ['\n', ')']) := by
    change '(' :: '\n' :: unifyLineBreaks (text ++ ['\n', ')']) = _
    rw [unified]
    rfl
  have opened : operatorWidth ('(' :: (('\n' :: inner) ++ ['\n', ')'])) = 1 :=
    operatorWidth_eq_one (by decide) fun next _ => runsOn_eq_false (by decide +kernel) next
  rw [whole] at lexed
  obtain ⟨found, read, dropped⟩ := Option.map_eq_some_iff.mp lexed
  obtain ⟨later, depth, rfl, deep, behind⟩ := of_lexemesFrom (.inr (.inr rfl)) read
  rw [opened] at deep behind dropped
  obtain ⟨own, rfl⟩ := lexemesFrom_enclosed (Nat.zero_le _) behind
  refine ⟨own, 0 + 1 + ('\n' :: inner).length + 1, ?_, ?_⟩
  · rw [whole]
    simp only [List.length_cons, List.length_append, List.length_nil]
    omega
  · rw [whole, lexed, ← dropped]
    rfl

theorem ofText?_of_within_nil (nothing : Within text []) :
    ofText? (enclose text) = some (.tuple []) := by
  obtain ⟨stop, -, lexed⟩ := nothing
  rw [ofText?, lexed]
  rfl

/-- What a text is made of that is read as an expression. -/
theorem within_of_compile (compiled : compile text = .ok code) :
    ∃ own, Within text own ∧ (own = [] → code = .tuple []) ∧ (¬Balanced own ↔ Reopens own) := by
  rw [compile] at compiled
  split at compiled
  · cases compiled
  split at compiled
  · next e read =>
    split at compiled
    · cases compiled
      obtain ⟨lexemes, lexed, whole⟩ := Option.bind_eq_some_iff.mp read
      obtain ⟨own, within⟩ := exists_within lexed
      refine ⟨own, within, ?_, ?_, Reopens.not_balanced⟩
      · rintro rfl
        exact Option.some.inj (read.symm.trans (ofText?_of_within_nil within))
      · obtain ⟨stop, -, same⟩ := within
        cases lexed.symm.trans same
        exact (paired_of_ofLexemes? whole).balanced_or_reopens.resolve_left
    · cases compiled
  · cases compiled

end ByteRecord.Expr

namespace ByteRecord.Expression
open ByteRecord.Expr

/-- A text that is read as an expression has balanced lexemes, unless they close the bracket put
before it and open the one behind it again; and if it has none, what is read is the pair of
brackets. Every other text is refused as no expression, where it stands. -/
theorem codeOf_enclosed (location : Option Source.Location) (kind : SpecificationKind)
    (text : List Char) :
    match codeOf location kind text with
    | .ok code =>
      ∃ own, Within text own ∧ (own = [] → code = .tuple []) ∧ (¬Balanced own ↔ Reopens own)
    | .error fault =>
      fault = .specification ⟨kind, .invalidExpression (String.ofList text), location, none⟩ := by
  unfold codeOf
  cases compiled : compile text with
  | ok code => exact within_of_compile compiled
  | error refusal => exact rfl

/-- A text may close the bracket put before it. -/
theorem foreign_bracket_closed :
    codeOf none .pattern ['1', ')', ' ', '+', ' ', '(', '2'] =
        .ok (.binary .add (.group (.const (.int 1))) (.group (.const (.int 2)))) ∧
      ∃ own, Within ['1', ')', ' ', '+', ' ', '(', '2'] own ∧ ¬Balanced own := by
  refine ⟨rfl, [⟨.number, ['1'], 2⟩, ⟨.op, [')'], 3⟩, ⟨.op, ['+'], 5⟩, ⟨.op, ['('], 7⟩,
    ⟨.number, ['2'], 8⟩], ⟨10, by decide, by decide +kernel⟩, by decide⟩

end ByteRecord.Expression
