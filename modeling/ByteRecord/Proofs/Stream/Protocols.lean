import ByteRecord.Proofs.Stream.Chunks

/-! Two ways to call one script of deliveries: as a reader that fills a buffer, and as one that
returns bytes. Call by call they answer alike, however long or short a delivery is and whatever
failure it stands for, with one exception: a call that hands out nothing, not even an empty byte
string, ends the stream of a reader that fills and is a failure of one that returns. -/
namespace ByteRecord

/-- A script is used up to a rest by calls of which none hands out nothing at all. -/
inductive Uses : (script rest : List Delivery) → Prop
  | refl : Uses script script
  /-- A part of the first delivery is handed out. -/
  | cut (uses : Uses (.data left false :: later) rest) : Uses (.data bytes whole :: later) rest
  | next (handed : delivery ≠ .nothing) (uses : Uses later rest) : Uses (delivery :: later) rest

namespace Uses

theorem trans (first : Uses script middle) (second : Uses middle rest) : Uses script rest := by
  induction first with
  | refl => exact second
  | cut _ ih => exact .cut (ih second)
  | next handed _ ih => exact .next handed (ih second)

theorem split (uses : Uses script rest) :
    ∃ used tail, script = used ++ tail ∧ tail.length = rest.length ∧ .nothing ∉ used := by
  induction uses with
  | refl => exact ⟨[], _, rfl, rfl, nofun⟩
  | @cut left later rest bytes whole _ ih =>
    obtain ⟨used, tail, parts, count, handed⟩ := ih
    cases used with
    | nil =>
      obtain rfl : .data left false :: later = tail := parts
      exact ⟨[], .data bytes whole :: later, rfl, count, nofun⟩
    | cons first used =>
      obtain ⟨rfl, rfl⟩ := List.cons.inj parts
      refine ⟨.data bytes whole :: used, tail, rfl, count, ?_⟩
      simp only [List.mem_cons, reduceCtorEq, false_or] at handed ⊢
      exact handed
  | @next delivery later rest present _ ih =>
    obtain ⟨used, tail, rfl, count, handed⟩ := ih
    refine ⟨delivery :: used, tail, rfl, count, ?_⟩
    rw [List.mem_cons, not_or]
    exact ⟨present.symm, handed⟩

end Uses

/-- The last delivery that is used of a script is one that hands out nothing at all. -/
def EndsInNothing (script rest : List Delivery) : Prop :=
  ∃ used, script = used ++ .nothing :: rest

theorem Uses.not_endsInNothing (uses : Uses script rest) : ¬EndsInNothing script rest := by
  rintro ⟨earlier, same⟩
  obtain ⟨used, tail, rfl, count, handed⟩ := uses.split
  have parts : used ++ tail = (earlier ++ [.nothing]) ++ rest := by
    rw [same, List.append_assoc, List.singleton_append]
  obtain ⟨rfl, -⟩ := List.append_inj' parts count
  exact handed (List.mem_append_right _ List.mem_cons_self)

theorem EndsInNothing.of_uses (uses : Uses script middle) (ends : EndsInNothing middle rest) :
    EndsInNothing script rest := by
  induction uses with
  | refl => exact ends
  | @cut left later middle bytes whole _ ih =>
    obtain ⟨used, same⟩ := ih ends
    cases used with
    | nil => cases same
    | cons first used =>
      obtain ⟨-, rfl⟩ := List.cons.inj same
      exact ⟨.data bytes whole :: used, rfl⟩
  | @next delivery later middle _ _ ih =>
    obtain ⟨used, rfl⟩ := ih ends
    exact ⟨delivery :: used, rfl⟩

namespace Stream

/-- Both ways of calling leave the same script. They have the same answer, or one call hands out
more than it is asked for, or nothing at all. -/
theorem ask_protocols (count : Nat) (script : List Delivery) :
    ∃ answer answer' rest,
      ask count (.script .fills script) = (answer, .script .fills rest) ∧
      ask count (.script .returns script) = (answer', .script .returns rest) ∧
      ((answer = .nothing ∧ answer' = .nothing ∧ script = .nothing :: rest) ∨
        Uses script rest ∧ (answer' = answer ∧ answer ≠ .nothing ∧
            (∀ data, answer = .handed data → data.length ≤ count) ∨
          answer = .failed (.failure .value) ∧ ∃ data, answer' = .handed data ∧ count < data.length)) := by
  cases script with
  | nil =>
    refine ⟨.handed [], _, [], rfl, rfl, .inr ⟨.refl, .inl ⟨rfl, nofun, ?_⟩⟩⟩
    rintro data ⟨⟩
    exact Nat.zero_le _
  | cons delivery later =>
    cases delivery with
    | nothing => exact ⟨_, _, later, rfl, rfl, .inl ⟨rfl, rfl, rfl⟩⟩
    | interruption cause =>
      exact ⟨_, _, later, rfl, rfl, .inr ⟨.next nofun .refl, .inl ⟨rfl, nofun, nofun⟩⟩⟩
    | failure failure =>
      exact ⟨_, _, later, rfl, rfl, .inr ⟨.next nofun .refl, .inl ⟨rfl, nofun, nofun⟩⟩⟩
    | data own whole =>
      by_cases fits : own.length ≤ count
      · refine ⟨.handed own, _, later, if_pos fits, if_pos fits,
          .inr ⟨.next nofun .refl, .inl ⟨rfl, nofun, ?_⟩⟩⟩
        rintro data ⟨⟩
        exact fits
      · cases whole with
        | false =>
          refine ⟨.handed (own.take count), _, _, if_neg fits, if_neg fits,
            .inr ⟨.cut .refl, .inl ⟨rfl, nofun, ?_⟩⟩⟩
          rintro data ⟨⟩
          exact List.length_take_le _ _
        | true =>
          exact ⟨.failed (.failure .value), .handed own, later, if_neg fits, if_neg fits,
            .inr ⟨.next nofun .refl, .inr ⟨rfl, own, rfl, Nat.lt_of_not_le fits⟩⟩⟩

end Stream

namespace Filling

/-- Filling a view in both ways comes to the same, unless a call hands out nothing at all. -/
theorem fillFrom_protocols (script : List Delivery) (view : List UInt8)
    (size : view.length = requested) (within : filled ≤ requested) :
    ∃ filling filling' view' rest,
      fillFrom .fills requested filled view (Stream.script .fills script) =
        (filling, view', .script .fills rest) ∧
      fillFrom .returns requested filled view (Stream.script .returns script) =
        (filling', view', .script .returns rest) ∧
      (filling' = filling ∧ Uses script rest ∨
        EndsInNothing script rest ∧ (∃ received, filling = .short received none) ∧
          filling' = .failed (.failure .type)) := by
  induction missing : requested - filled using Nat.strongRecOn
    generalizing filled view script with
  | ind missing ih =>
    by_cases lacking : filled < requested
    · obtain ⟨answer, answer', rest, asked, asked', cases⟩ :=
        Stream.ask_protocols (requested - filled) script
      have fills : Reader.ask (requested - filled) (Stream.script .fills script) =
          (answer, Stream.script .fills rest) := asked
      have returns : Reader.ask (requested - filled) (Stream.script .returns script) =
          (answer', Stream.script .returns rest) := asked'
      have step := fillFrom_step .fills view lacking fills
      have step' := fillFrom_step .returns view lacking returns
      rcases cases with ⟨rfl, rfl, rfl⟩ | ⟨uses, ⟨rfl, present, bounded⟩ | ⟨rfl, data, rfl, long⟩⟩
      · exact ⟨_, _, view, rest, step, step', .inr ⟨⟨[], rfl⟩, ⟨filled, rfl⟩, rfl⟩⟩
      · rw [step, step']
        cases answer' with
        | nothing => exact absurd rfl present
        | interrupted cause => exact ⟨_, _, view, rest, rfl, rfl, .inl ⟨rfl, uses⟩⟩
        | failed fault => exact ⟨_, _, view, rest, rfl, rfl, .inl ⟨rfl, uses⟩⟩
        | handed data =>
          have fits : filled + data.length ≤ view.length := by
            have := bounded data rfl
            omega
          rw [receive_handed .fills data fits, receive_handed .returns data fits]
          cases data with
          | nil => exact ⟨_, _, _, rest, rfl, rfl, .inl ⟨rfl, uses⟩⟩
          | cons byte piece =>
            obtain ⟨filling, filling', view', rest', fill, fill', agree⟩ :=
              ih (requested - (filled + (byte :: piece).length)) (by rw [List.length_cons]; omega)
                rest _ ((length_overwrite fits).trans size) (size ▸ fits) rfl
            refine ⟨filling, filling', view', rest', fill, fill', ?_⟩
            rcases agree with ⟨same, later⟩ | ⟨ends, differ⟩
            · exact .inl ⟨same, uses.trans later⟩
            · exact .inr ⟨ends.of_uses uses, differ⟩
      · have excess : view.length - filled < data.length := size ▸ long
        refine ⟨.failed (.failure .value), .failed (.failure .value), view, rest, step, ?_, .inl ⟨rfl, uses⟩⟩
        rw [step', receive, if_pos ⟨rfl, excess⟩]
    · have whole : requested ≤ filled := Nat.le_of_not_lt lacking
      exact ⟨.full, .full, view, script, fillFrom_of_le _ _ whole, fillFrom_of_le _ _ whole,
        .inl ⟨rfl, .refl⟩⟩

end Filling

/-- What both ways of calling one script come to: the same, with the script used alike, or the end
of the stream within a field on one side and a failure on the other. -/
inductive Answers (script rest : List Delivery) :
    (filled returned : Except Fault (Except ParseError α × Nat)) → Prop
  | same (uses : Uses script rest) : Answers script rest result result
  | differ (ends : EndsInNothing script rest) :
    Answers script rest (.ok (.error (.read field received none), total))
      (.error (.failure .type))

namespace Plan

theorem runField_protocols (interpreter : Interpreter σ) (field : Field) (world : World σ)
    (buffer : List UInt8) (script : List Delivery) :
    ∃ result result' world' buffer' rest,
      (runField interpreter field).run ⟨world, Stream.script .fills script, buffer⟩ =
        (result, ⟨world', .script .fills rest, buffer'⟩) ∧
      (runField interpreter field).run ⟨world, Stream.script .returns script, buffer⟩ =
        (result', ⟨world', .script .returns rest, buffer'⟩) ∧
      Answers script rest result result' := by
  obtain ⟨filling, filling', view, rest, fill, fill', agree⟩ :=
    Filling.fillFrom_protocols script (buffer.take field.size) rfl (Nat.zero_le _)
  have filled : Filling.fill (buffer.take field.size) (Stream.script .fills script) =
      (filling, view, .script .fills rest) := fill
  have filled' : Filling.fill (buffer.take field.size) (Stream.script .returns script) =
      (filling', view, .script .returns rest) := fill'
  rw [runField_eq, runField_eq]
  simp only [filled, filled']
  rcases agree with ⟨rfl, uses⟩ | ⟨ends, ⟨received, rfl⟩, rfl⟩
  · cases filling' with
    | full => exact ⟨_, _, _, _, rest, rfl, rfl, .same uses⟩
    | short received cause => exact ⟨_, _, _, _, rest, rfl, rfl, .same uses⟩
    | failed fault => exact ⟨_, _, _, _, rest, rfl, rfl, .same uses⟩
  · exact ⟨_, _, _, _, rest, rfl, rfl, .differ ends⟩

theorem runFields_protocols (interpreter : Interpreter σ) (consumed : Nat) (fields : List Field)
    (world : World σ) (buffer : List UInt8) (script : List Delivery) :
    ∃ result result' world' buffer' rest,
      (runFields interpreter consumed fields).run ⟨world, Stream.script .fills script, buffer⟩ =
        (result, ⟨world', .script .fills rest, buffer'⟩) ∧
      (runFields interpreter consumed fields).run ⟨world, Stream.script .returns script, buffer⟩ =
        (result', ⟨world', .script .returns rest, buffer'⟩) ∧
      Answers script rest result result' := by
  induction fields generalizing consumed world buffer script with
  | nil => exact ⟨_, _, _, _, script, rfl, rfl, .same .refl⟩
  | cons field fields ih =>
    obtain ⟨result, result', world', buffer', middle, run, run', answers⟩ :=
      runField_protocols interpreter field world buffer script
    rw [runFields_cons, runFields_cons, run, run']
    cases answers with
    | differ ends => exact ⟨_, _, _, _, middle, rfl, rfl, .differ ends⟩
    | same uses =>
      cases result with
      | error fault => exact ⟨_, _, _, _, middle, rfl, rfl, .same uses⟩
      | ok answer =>
        obtain ⟨result, taken⟩ := answer
        cases result with
        | error error => exact ⟨_, _, _, _, middle, rfl, rfl, .same uses⟩
        | ok own =>
          obtain ⟨result, result', world'', buffer'', rest, run, run', later⟩ :=
            ih (consumed + taken) world' buffer' middle
          simp only [run, run']
          refine ⟨_, _, world'', buffer'', rest, rfl, rfl, ?_⟩
          cases later with
          | same further => exact .same (uses.trans further)
          | differ ends => exact .differ (ends.of_uses uses)

/-- A plan and a script of deliveries come to one and the same however the script is called: the
same result, the same effects and the same rest of the script. Only where the last call hands out
nothing at all, a reader that fills is at its end within a field, and one that returns fails. -/
theorem parseStream_protocols (interpreter : Interpreter σ) (plan : Plan) (names : Scope)
    (state : σ) (script : List Delivery) :
    ∃ result result' rest state',
      plan.parseStream interpreter names (Stream.script .fills script) state =
        ((result, .script .fills rest), state') ∧
      plan.parseStream interpreter names (Stream.script .returns script) state =
        ((result', .script .returns rest), state') ∧
      (¬EndsInNothing script rest → result' = result) ∧
      (EndsInNothing script rest → result' = .error (.failure .type) ∧
        ∃ field received consumed,
          result = .ok ⟨.error (.read field received none), consumed⟩) := by
  obtain ⟨result, result', world, buffer, rest, run, run', answers⟩ :=
    runFields_protocols interpreter 0 plan.fields (plan.world names state) plan.buffer script
  simp only [parseStream, run_eq, run, run']
  cases answers with
  | differ ends =>
    exact ⟨_, _, rest, _, rfl, rfl, fun other => absurd ends other, fun _ => ⟨rfl, _, _, _, rfl⟩⟩
  | same uses =>
    have handed := uses.not_endsInNothing
    cases result with
    | error fault => exact ⟨_, _, rest, _, rfl, rfl, fun _ => rfl, fun ends => absurd ends handed⟩
    | ok answer =>
      obtain ⟨result, consumed⟩ := answer
      cases result <;>
        exact ⟨_, _, rest, _, rfl, rfl, fun _ => rfl, fun ends => absurd ends handed⟩

/-- After a tag of one byte a call hands out nothing at all. -/
theorem protocols_differ_on_nothing :
    ∃ field state,
      tagged.parseStream .standard .empty (Stream.script .fills [.data [0x48] false, .nothing])
        (fun _ => 0) = ((.ok ⟨.error (.read field 0 none), 1⟩, .script .fills []), state) ∧
      tagged.parseStream .standard .empty (Stream.script .returns [.data [0x48] false, .nothing])
        (fun _ => 0) = ((.error (.failure .type), .script .returns []), state) :=
  ⟨⟨some (.name "a"), ⟨[.wildcard, .wildcard], .hex⟩, none, none, none⟩, fun _ => 0,
    by with_unfolding_all rfl, by with_unfolding_all rfl⟩

end Plan
end ByteRecord
