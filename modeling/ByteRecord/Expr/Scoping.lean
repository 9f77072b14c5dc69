import ByteRecord.Expr.Syntax

/-! What an expression may not do although it can be read: wait or yield outside a function, repeat
a parameter or an argument, bind a protected name, or rebind the variable of a comprehension. -/
namespace ByteRecord.Expr

/-- Where a part of an expression stands. -/
structure Place where
  /-- Directly inside an anonymous function. -/
  inFunction : Bool
  /-- Directly inside a comprehension. -/
  inComprehension : Bool
  /-- Inside what a comprehension runs over. -/
  inIterable : Bool
  /-- The variables of the comprehensions around it, up to the next function. -/
  iterated : List String

def Place.top : Place := ⟨false, false, false, []⟩

private def protectedName : String := "__debug__"

/-- The names that a target mentions; all of them count as variables of the comprehension. -/
def targetNames : Expr → List String
  | .name n => [n]
  | .group e | .starred e | .attribute e _ | .unary _ e => targetNames e
  | .subscript a b | .binary _ a b => targetNames a ++ targetNames b
  | .tuple es | .list es => allTargetNames es
  | .call f es => targetNames f ++ allTargetNames es
  | _ => []
where
  allTargetNames : List Expr → List String
    | [] => []
    | e :: rest => targetNames e ++ allTargetNames rest

private def starCount (items : List Expr) : Nat :=
  items.countP fun
    | .starred _ => true
    | _ => false

/-- At most one part of a display may take the rest, and no protected name is bound. -/
def isFairTarget : Expr → Bool
  | .name n => n != protectedName
  | .attribute _ n => n != protectedName
  | .group inner => isFairTarget inner
  | .starred _ => false
  | .tuple items | .list items => starCount items ≤ 1 && areFair items
  | _ => true
where
  areFair : List Expr → Bool
    | [] => true
    | .starred inner :: rest => isFairTarget inner && areFair rest
    | item :: rest => isFairTarget item && areFair rest

mutual

/-- Waits on its own account, not inside a function or a generator. -/
def waits : Expr → Bool
  | .await _ => true
  | .group e | .starred e | .spread e | .unary _ e | .attribute e _ | .keyword _ e | .assign _ e
  | .yield e | .yieldFrom e => waits e
  | .formatted _ es | .tuple es | .list es | .set es | .dict es | .all es | .any es => anyWaits es
  | .entry a b | .binary _ a b | .subscript a b => waits a || waits b
  | .compare a _ es | .call a es => waits a || anyWaits es
  | .conditional a b c | .slice a b c => waits a || waits b || waits c
  | .lambda _ defaults _ => anyWaits defaults
  | .clause isAsync target iterable conditions =>
    isAsync || waits target || waits iterable || anyWaits conditions
  | .comprehension kind element clauses =>
    if kind == .generator then firstIterableWaits clauses
    else waits element || anyWaits clauses
  | .const _ | .name _ => false

def anyWaits : List Expr → Bool
  | [] => false
  | e :: rest => waits e || anyWaits rest

/-- What a comprehension runs over first belongs to the place around it. -/
def firstIterableWaits : List Expr → Bool
  | [] => false
  | c :: _ => iterableWaits c

def iterableWaits : Expr → Bool
  | .clause _ _ iterable _ => waits iterable
  | _ => false

end

private def keywordNames (arguments : List Expr) : List String :=
  arguments.filterMap fun
    | .keyword n _ => some n
    | _ => none

mutual

/-- Whether an expression keeps the rules at its place. -/
def keepsRules (place : Place) : Expr → Bool
  | .const _ | .name _ => true
  | .group e | .starred e | .spread e | .unary _ e | .attribute e _ => keepsRules place e
  | .keyword n e => n != protectedName && keepsRules place e
  | .formatted _ es | .tuple es | .list es | .set es | .dict es | .all es | .any es =>
    allKeepRules place es
  | .entry a b | .binary _ a b | .subscript a b => keepsRules place a && keepsRules place b
  | .compare a _ es => keepsRules place a && allKeepRules place es
  | .conditional a b c | .slice a b c =>
    keepsRules place a && keepsRules place b && keepsRules place c
  | .call f es =>
    (keywordNames es).Nodup && keepsRules place f && allKeepRules place es
  | .assign n e =>
    n != protectedName && !place.inIterable && !place.iterated.contains n && keepsRules place e
  | .lambda parameters defaults body =>
    let names := parameters.map (·.name)
    names.Nodup && !names.contains protectedName && allKeepRules place defaults &&
      keepsRules ⟨true, false, place.inIterable, []⟩ body
  | .comprehension kind element clauses =>
    let names := clauses.flatMap fun
      | .clause _ target _ _ => targetNames target
      | _ => []
    let inner : Place := ⟨false, true, place.inIterable, names ++ place.iterated⟩
    (kind == .generator || place.inComprehension || !(waits element || anyWaits clauses)) &&
      clausesKeepRules { place with inIterable := true } inner clauses &&
      keepsRules inner element
  | .clause _ _ _ _ => false
  | .await e => place.inComprehension && keepsRules place e
  | .yield e | .yieldFrom e => place.inFunction && keepsRules place e

def allKeepRules (place : Place) : List Expr → Bool
  | [] => true
  | e :: rest => keepsRules place e && allKeepRules place rest

/-- The first iterable belongs to the place around the comprehension, the others inside it. -/
def clausesKeepRules (iterablePlace inner : Place) : List Expr → Bool
  | [] => true
  | c :: rest =>
    clauseKeepsRules iterablePlace inner c &&
      clausesKeepRules { inner with inIterable := true } inner rest

def clauseKeepsRules (iterablePlace inner : Place) : Expr → Bool
  | .clause _ target iterable conditions =>
    isFairTarget target && keepsRules inner target && keepsRules iterablePlace iterable &&
      allKeepRules inner conditions
  | _ => false

end

end ByteRecord.Expr
