import ByteRecord.Field.Basic

/-! Rules for a list of fields as a whole: no two adjacent fields without a member, no member twice,
and positions numbered from zero without gaps. -/
namespace ByteRecord.Layout

private def refuse (field : Field) (cause : Cause) : Except Fault Unit :=
  .error (.ofCauseAt field.location .layout cause)

def checkSkips : List Field → Except Fault Unit
  | first :: second :: rest =>
    if first.isMember || second.isMember then checkSkips (second :: rest)
    else refuse second .adjacentSkips
  | _ => .ok ()

/-- Refuses the first field whose member is among those seen before. -/
def checkDistinct : (seen : List Member) → List Field → Except Fault Unit
  | _, [] => .ok ()
  | seen, field :: rest =>
    match field.member with
    | none => checkDistinct seen rest
    | some member =>
      if seen.contains member then refuse field (.repeatedMember member.toValue)
      else checkDistinct (member :: seen) rest

def positions (fields : List Field) : List Nat :=
  fields.filterMap fun field => field.member.bind Member.position?

/-- Refuses the first field whose position is not below the number of positions. -/
def checkPositions (fields : List Field) : Except Fault Unit :=
  let found := positions fields
  let beyond (field : Field) : Bool :=
    (field.member.bind Member.position?).any fun k => found.length ≤ k
  match fields.find? beyond with
  | some field =>
    refuse field (.positionGap found.length ((found.mergeSort (· ≤ ·)).map Int.ofNat))
  | none => .ok ()

def check (fields : List Field) : Except Fault Unit := do
  checkSkips fields
  checkDistinct [] fields
  checkPositions fields

end ByteRecord.Layout
