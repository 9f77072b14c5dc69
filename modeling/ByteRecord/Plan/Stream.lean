import ByteRecord.Value.Attribute
import ByteRecord.Fault.Basic

/-! Where records are read from: bytes, or a script of what each call of a reader delivers. -/
namespace ByteRecord

inductive Delivery where
  /-- Hands out bytes: at most as many as are asked for, unless they come as a whole. -/
  | data (bytes : List UInt8) (whole : Bool)
  /-- Hands out nothing at all, not even an empty byte string. -/
  | nothing
  | interruption (interruption : Interruption)
  /-- Fails in a way that is no failure of a device. -/
  | failure (failure : Failure)
deriving DecidableEq, Repr

/-- How a reader is called: it fills a buffer, or it returns bytes. -/
inductive Protocol where
  | fills
  | returns
deriving DecidableEq, Repr

inductive Stream where
  | bytes (rest : List UInt8)
  /-- One delivery for each call; after the last there is nothing more to read. -/
  | script (protocol : Protocol) (deliveries : List Delivery)
  /-- Something that looks like a reader but cannot be called as one. -/
  | unusable
deriving DecidableEq, Repr

inductive Answer where
  /-- Bytes are handed out; none at the end of the stream. -/
  | handed (data : List UInt8)
  /-- Nothing at all, not even an empty byte string. -/
  | nothing
  | interrupted (interruption : Interruption)
  | failed (fault : Fault)

class Reader (ρ : Type) where
  protocol : ρ → Protocol
  /-- Asks for up to `count` bytes. -/
  ask : (count : Nat) → ρ → Answer × ρ

namespace Stream

def protocol : Stream → Protocol
  | .script protocol _ => protocol
  | _ => .fills

/-- Asks for up to `count` bytes. What a delivery does not hand out stays first. Too many bytes that
come as a whole fit no buffer, so a reader that fills one fails. -/
def ask (count : Nat) : Stream → Answer × Stream
  | .bytes rest => (.handed (rest.take count), .bytes (rest.drop count))
  | .unusable => (.failed (.failure .type), .unusable)
  | .script protocol [] => (.handed [], .script protocol [])
  | .script protocol (.data own whole :: later) =>
    if own.length ≤ count then (.handed own, .script protocol later)
    else if !whole then
      (.handed (own.take count), .script protocol (.data (own.drop count) false :: later))
    else match protocol with
      | .fills => (.failed (.failure .value), .script protocol later)
      | .returns => (.handed own, .script protocol later)
  | .script protocol (.nothing :: later) => (.nothing, .script protocol later)
  | .script protocol (.interruption i :: later) => (.interrupted i, .script protocol later)
  | .script protocol (.failure failure :: later) =>
    (.failed (.failure failure), .script protocol later)

instance : Reader Stream := ⟨protocol, ask⟩

/-- A stream raises no error of the library. -/
theorem ask_failed {stream : Stream} (failed : (ask count stream).1 = .failed fault) :
    ∃ failure, fault = .failure failure := by
  cases stream with
  | bytes rest => cases failed
  | unusable =>
    cases failed
    exact ⟨_, rfl⟩
  | script protocol deliveries =>
    cases deliveries with
    | nil => cases failed
    | cons delivery later =>
      cases delivery with
      | data own whole =>
        simp only [ask] at failed
        split at failed
        · cases failed
        · split at failed
          · cases failed
          · cases protocol <;> cases failed
            exact ⟨_, rfl⟩
      | nothing => cases failed
      | interruption cause => cases failed
      | failure failure =>
        cases failed
        exact ⟨failure, rfl⟩

/-- The stream that a value is or stands for: bytes, a stream, or whatever has the methods of a
reader. -/
def ofValue (value : Value) : Except Fault Stream :=
  match value.bytes?, value with
  | some data, _ => .ok (.bytes data)
  | _, .stream data => .ok (.bytes data)
  | _, value =>
    if (value.attribute? "readinto").isSome || (value.attribute? "read").isSome then .ok .unusable
    else .error (.notReadable value.typeName)

end Stream
end ByteRecord
