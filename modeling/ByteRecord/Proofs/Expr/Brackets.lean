import ByteRecord.Expr.Lexeme

/-! Brackets among lexemes: what is open behind them, and stretches whose brackets are paired. -/
namespace ByteRecord.Expr
open Lexical

/-- The bracket that closes what a bracket opens. -/
def closing? : String → Option String
  | "(" => some ")"
  | "[" => some "]"
  | "\x7b" => some "\x7d"
  | _ => none

/-- What is open behind a lexeme, innermost first, each bracket as the one that will close it. Only
the innermost can be closed. -/
def openBehind? (opened : List String) (lexeme : Lexeme) : Option (List String) :=
  let word := String.ofList lexeme.text
  if lexeme.kind != .op then some opened
  else match closing? word with
    | some closer => some (closer :: opened)
    | none =>
      if !isClosing word then some opened
      else match opened with
        | innermost :: outer => if innermost == word then some outer else none
        | [] => none

/-- What is open behind lexemes; nothing if one of them closes what is not open. -/
def leftOpen? (opened : List String) (lexemes : List Lexeme) : Option (List String) :=
  lexemes.foldlM openBehind? opened

/-- Every bracket closes one that the lexemes themselves opened, and none stays open. -/
def Balanced (lexemes : List Lexeme) : Prop :=
  leftOpen? [] lexemes = some []

instance (lexemes : List Lexeme) : Decidable (Balanced lexemes) :=
  inferInstanceAs (Decidable (_ = _))

theorem leftOpen?_append (opened : List String) (front rest : List Lexeme) :
    leftOpen? opened (front ++ rest) = (leftOpen? opened front).bind (leftOpen? · rest) :=
  List.foldlM_append

/-- No part in front closes a bracket that it did not open. -/
theorem Balanced.isSome_of_prefix (balanced : Balanced lexemes) (front : first <+: lexemes) :
    (leftOpen? [] first).isSome := by
  obtain ⟨rest, rfl⟩ := front
  rw [Balanced, leftOpen?_append] at balanced
  obtain ⟨opened, found, -⟩ := Option.bind_eq_some_iff.mp balanced
  rw [found]
  rfl

/-- Lexemes that close a bracket which they did not open, and go on with one that they do not
close. -/
def Reopens (lexemes : List Lexeme) : Prop :=
  ∃ front stop middle start back,
    lexemes = front ++ ⟨.op, [')'], stop⟩ :: (middle ++ ⟨.op, ['('], start⟩ :: back) ∧
      Balanced front ∧ Balanced middle ∧ Balanced back

theorem Reopens.not_balanced (reopens : Reopens lexemes) : ¬Balanced lexemes := by
  obtain ⟨front, stop, middle, start, back, rfl, own, -, -⟩ := reopens
  intro balanced
  have first : front ++ [⟨.op, [')'], stop⟩] <+:
      front ++ ⟨.op, [')'], stop⟩ :: (middle ++ ⟨.op, ['('], start⟩ :: back) :=
    (List.prefix_append_right_inj front).mpr (List.prefix_append [_] _)
  have found := balanced.isSome_of_prefix first
  rw [leftOpen?_append, own] at found
  cases found

section
variable (opened : List String) (start : Nat)

theorem openBehind?_opening (pair : closing? word = some closer) :
    openBehind? opened ⟨.op, word.toList, start⟩ = some (closer :: opened) := by
  simp [openBehind?, pair]

theorem openBehind?_closing (pair : closing? word = some closer) :
    openBehind? (closer :: opened) ⟨.op, closer.toList, start⟩ = some opened := by
  unfold closing? at pair
  split at pair
  case h_4 => cases pair
  all_goals
    cases pair
    simp [openBehind?, closing?, isClosing]

theorem openBehind?_other (opens : closing? word = none) (closes : isClosing word = false) :
    openBehind? opened ⟨.op, word.toList, start⟩ = some opened := by
  simp [openBehind?, opens, closes]

theorem openBehind?_of_kind (other : lexeme.kind ≠ .op) :
    openBehind? opened lexeme = some opened :=
  if_pos (bne_iff_ne.mpr other)

end

/-- Whatever is open before these lexemes is open behind them. -/
def Keeps (lexemes : List Lexeme) : Prop :=
  ∀ opened, leftOpen? opened lexemes = some opened

namespace Keeps

theorem nil : Keeps [] := fun _ => rfl

theorem balanced (keeps : Keeps lexemes) : Balanced lexemes := keeps []

theorem cons (other : ∀ opened, openBehind? opened lexeme = some opened) (later : Keeps rest) :
    Keeps (lexeme :: rest) := fun opened => by
  rw [leftOpen?, List.foldlM_cons, other]
  exact later opened

theorem bracketed (pair : closing? word = some closer) (inside : Keeps front)
    (later : Keeps rest) :
    Keeps (⟨.op, word.toList, start⟩ :: (front ++ ⟨.op, closer.toList, stop⟩ :: rest)) :=
  fun opened => by
  have within := inside (closer :: opened)
  have behind :
      leftOpen? (closer :: opened) (⟨.op, closer.toList, stop⟩ :: rest) = some opened := by
    rw [leftOpen?, List.foldlM_cons, openBehind?_closing opened stop pair]
    exact later opened
  rw [leftOpen?, List.foldlM_cons, openBehind?_opening opened start pair]
  change leftOpen? (closer :: opened) (front ++ _) = _
  rw [leftOpen?_append, within]
  exact behind

end Keeps

/-- Up to `rest` every bracket is paired; the last one may be a given one that closes what stands
open before. -/
inductive Paired : Option String → List Lexeme → List Lexeme → Prop
  | here : Paired none rest rest
  | shut : Paired (some closer) (⟨.op, closer.toList, start⟩ :: rest) rest
  | other (plain : ∀ opened, openBehind? opened lexeme = some opened)
      (later : Paired closer lexemes rest) : Paired closer (lexeme :: lexemes) rest
  | nested (pair : closing? word = some partner) (inside : Paired (some partner) lexemes middle)
      (later : Paired closer middle rest) :
      Paired closer (⟨.op, word.toList, start⟩ :: lexemes) rest

namespace Paired

theorem trans (first : Paired none lexemes middle) (later : Paired closer middle rest) :
    Paired closer lexemes rest := by
  generalize none_last : (none : Option String) = last at first
  induction first with
  | here => exact later
  | shut => cases none_last
  | other plain _ ih => exact .other plain (ih later none_last)
  | nested pair inside _ _ ih => exact .nested pair inside (ih later none_last)

/-- What is read keeps what is open, apart from the last bracket. -/
theorem exists_front (paired : Paired closer lexemes rest) : ∃ front, Keeps front ∧
    (closer = none ∧ lexemes = front ++ rest ∨
      ∃ word start, closer = some word ∧ lexemes = front ++ ⟨.op, word.toList, start⟩ :: rest) := by
  induction paired with
  | here => exact ⟨[], .nil, .inl ⟨rfl, rfl⟩⟩
  | shut => exact ⟨[], .nil, .inr ⟨_, _, rfl, rfl⟩⟩
  | other plain _ ih =>
    obtain ⟨front, keeps, ⟨last, rfl⟩ | ⟨word, start, last, rfl⟩⟩ := ih
    · exact ⟨_ :: front, keeps.cons plain, .inl ⟨last, rfl⟩⟩
    · exact ⟨_ :: front, keeps.cons plain, .inr ⟨word, start, last, rfl⟩⟩
  | @nested outer partner _ _ _ _ start pair _ _ inside later =>
    obtain ⟨front, keeps, ⟨last, -⟩ | ⟨_, stop, last, rfl⟩⟩ := inside
    · cases last
    cases last
    obtain ⟨behind, further, ⟨last, rfl⟩ | ⟨word, place, last, rfl⟩⟩ := later
    all_goals
      refine ⟨⟨.op, outer.toList, start⟩ :: (front ++ ⟨.op, partner.toList, stop⟩ :: behind),
        keeps.bracketed pair further, ?_⟩
    · exact .inl ⟨last, by simp⟩
    · exact .inr ⟨word, place, last, by simp⟩

theorem exists_partner (pair : closing? word = some closer)
    (paired : Paired none (before ++ [⟨.op, closer.toList, stop⟩]) []) :
    ∃ front opening start inside, closing? opening = some closer ∧
      before = front ++ ⟨.op, opening.toList, start⟩ :: inside ∧ Keeps front ∧ Keeps inside := by
  generalize all : before ++ [⟨.op, closer.toList, stop⟩] = lexemes at paired
  generalize none_last : (none : Option String) = last at paired
  generalize no_rest : ([] : List Lexeme) = rest at paired
  induction paired generalizing before with
  | here => simp [← no_rest] at all
  | shut => cases none_last
  | other plain later ih =>
    cases before with
    | nil =>
      cases all
      have closed := (plain [closer]).symm.trans (openBehind?_closing [] stop pair)
      cases closed
    | cons lexeme before =>
      cases all
      obtain ⟨front, opening, start, inside, own, rfl, keeps, within⟩ := ih rfl none_last no_rest
      exact ⟨_ :: front, opening, start, inside, own, rfl, keeps.cons plain, within⟩
  | @nested outer partner _ middle _ _ start own shut _ _ ih =>
    obtain ⟨enclosed, keeps, ⟨same, -⟩ | ⟨_, stop', same, rfl⟩⟩ := shut.exists_front
    · cases same
    cases same
    rcases List.eq_nil_or_concat middle with rfl | ⟨behind, final, rfl⟩
    · -- the first bracket is the partner
      have ends : before ++ [⟨.op, closer.toList, stop⟩] =
          (⟨.op, outer.toList, start⟩ :: enclosed) ++ [⟨.op, partner.toList, stop'⟩] := all
      obtain ⟨rfl, same⟩ := List.append_inj' ends rfl
      simp only [List.cons.injEq, Lexeme.mk.injEq, String.toList_inj, true_and, and_true] at same
      obtain ⟨rfl, rfl⟩ := same
      exact ⟨[], outer, start, enclosed, own, rfl, .nil, keeps⟩
    · rw [List.concat_eq_append] at all ih
      have ends : before ++ [⟨.op, closer.toList, stop⟩] = (⟨.op, outer.toList, start⟩ ::
          (enclosed ++ ⟨.op, partner.toList, stop'⟩ :: behind)) ++ [final] := by
        rw [all, List.cons_append, List.append_assoc, List.cons_append]
      obtain ⟨rfl, same⟩ := List.append_inj' ends rfl
      cases same
      obtain ⟨front, opening, place, inside, own', rfl, keeps', within⟩ := ih rfl none_last no_rest
      exact ⟨⟨.op, outer.toList, start⟩ :: (enclosed ++ ⟨.op, partner.toList, stop'⟩ :: front),
        opening, place, inside, own', by simp, keeps.bracketed own keeps', within⟩

theorem eq_of_closing? (pair : closing? word = some ")") : word = "(" := by
  unfold closing? at pair
  split at pair
  · rfl
  all_goals simp at pair

/-- Lexemes between brackets that are paired with those around them are balanced, or they close the
first of those and open the last one again. -/
theorem balanced_or_reopens
    (paired : Paired none (⟨.op, ['('], start⟩ :: (own ++ [⟨.op, [')'], stop⟩])) []) :
    Balanced own ∨ Reopens own := by
  generalize all : ⟨.op, ['('], start⟩ :: (own ++ [⟨.op, [')'], stop⟩]) = lexemes at paired
  cases paired with
  | here => cases all
  | other plain later =>
    cases all
    cases plain []
  | @nested word partner _ middle _ _ _ pair inside later =>
    obtain ⟨same, rest⟩ := List.cons.inj all
    obtain rfl : word = "(" := String.toList_inj.mp (Lexeme.mk.inj same).2.1.symm
    cases pair
    obtain ⟨front, keeps, ⟨none_last, -⟩ | ⟨_, place, last, parts⟩⟩ := inside.exists_front
    · cases none_last
    cases last
    rw [← rest] at parts
    rcases List.eq_nil_or_concat middle with rfl | ⟨behind, final, rfl⟩
    · obtain ⟨rfl, -⟩ := List.append_inj' parts rfl
      exact .inl keeps.balanced
    · rw [List.concat_eq_append] at parts later
      have ends : own ++ [⟨.op, [')'], stop⟩] =
          (front ++ ⟨.op, [')'], place⟩ :: behind) ++ [final] := by
        rw [parts, List.append_assoc, List.cons_append]
        rfl
      obtain ⟨rfl, same⟩ := List.append_inj' ends rfl
      cases same
      have later : Paired none (behind ++ [⟨.op, ")".toList, stop⟩]) [] := later
      obtain ⟨_, _, _, _, own', rfl, keeps', within⟩ :=
        exists_partner (rfl : closing? "(" = some ")") later
      obtain rfl := eq_of_closing? own'
      exact .inr ⟨front, place, _, _, _, rfl, keeps.balanced, keeps'.balanced, within.balanced⟩

end Paired
end ByteRecord.Expr
