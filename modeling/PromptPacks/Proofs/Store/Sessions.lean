import PromptPacks.Proofs.Store.Outcome

namespace PromptPacks

open PromptPacks.Transaction

/-- A request that only asks: it never changes the tables. -/
def Transaction.IsQuestion {α : Type} (request : Transaction α) : Prop :=
  ∀ tables, request.Outcome tables (fun _ => True) fun _ after => after = tables

/-- A connection to the tables: what is stored, and what the transaction that is
    open has made of it so far. Any step to come may fail for a reason of its
    own, as on a full disk. -/
structure Session where
  stored : Tables
  working : Option Tables
  faults : Nat → Bool

namespace Session

/-- The tables that a step sees. -/
def tables (session : Session) : Tables :=
  session.working.getD session.stored

/-- What a step makes of the tables belongs to the transaction that is open.
    Where none is open, it is stored at once. -/
def write (session : Session) (after : Tables) : Session :=
  match session.working with
  | some _ => { session with working := some after }
  | none => { session with stored := after }

/-- The session before the next step. -/
def advance (session : Session) : Session :=
  { session with faults := fun n => session.faults (n + 1) }

def opened (session : Session) : Session :=
  { session with working := some session.tables }

def committed (session : Session) : Session :=
  { session with stored := session.tables, working := none }

/-- No step fails for a reason of its own. -/
def IsFaultless (session : Session) : Prop :=
  ∀ n, session.faults n = false

theorem IsFaultless.advance {session : Session} (hfaultless : session.IsFaultless) :
    session.advance.IsFaultless :=
  fun n => hfaultless (n + 1)

end Session

/-- A request that is carried out step by step. What its steps have done to the
    session remains done when it fails. -/
abbrev Procedure := ExceptT StoreFailure (StateM Session)

namespace Procedure

variable {α β : Type}

/-- One step: a check, a question to the tables or a single change of them. It
    is done as a whole or not at all. -/
def step (request : Transaction α) : Procedure α := fun session =>
  if session.faults 0 then (.error .storage, session.advance)
  else
    match request session.tables with
    | .ok (answer, after) => (.ok answer, session.advance.write after)
    | .error reason => (.error reason, session.advance)

/-- A step that opens or ends a transaction. -/
def boundary (change : Session → Session) : Procedure Unit := fun session =>
  if session.faults 0 then (.error .storage, session.advance)
  else (.ok (), change session.advance)

/-- Begins a transaction. -/
def start : Procedure Unit :=
  boundary Session.opened

/-- Stores what the open transaction has done. -/
def commit : Procedure Unit :=
  boundary Session.committed

/-- What a procedure answers, and what is stored when it is over. A transaction
    that is still open then is undone. -/
def perform (procedure : Procedure α) (faults : Nat → Bool) (tables : Tables) :
    Except StoreFailure α × Tables :=
  let (result, session) := procedure ⟨tables, none, faults⟩
  (result, session.stored)

/-- How a procedure ends that begins in a session. -/
def Ends (procedure : Procedure α) (session : Session)
    (failure : StoreFailure → Session → Prop) (success : α → Session → Prop) : Prop :=
  match procedure session with
  | (.ok answer, after) => success answer after
  | (.error reason, after) => failure reason after

/-- Two parts of a procedure run one after the other. All that follows goes
    through a procedure by this rule. -/
theorem ends_bind {first : Procedure α} {second : α → Procedure β} {session : Session}
    {failure : StoreFailure → Session → Prop} {success : β → Session → Prop} :
    (first >>= second).Ends session failure success ↔
      first.Ends session failure fun answer after =>
        (second answer).Ends after failure success := by
  unfold Ends
  change (match ExceptT.bindCont second (first session).1 (first session).2 with
    | (.ok answer, after) => success answer after
    | (.error reason, after) => failure reason after) ↔ _
  rcases first session with ⟨_ | _, after⟩ <;> exact Iff.rfl

/-- A step either meets a fault, and then nothing of it happens, or it does its
    request in full. -/
theorem ends_step {request : Transaction α} {session : Session}
    {failure : StoreFailure → Session → Prop} {success : α → Session → Prop} :
    (step request).Ends session failure success ↔
      (session.faults 0 = true → failure .storage session.advance) ∧
        (session.faults 0 = false → request.Outcome session.tables
          (fun reason => failure reason session.advance)
          fun answer after => success answer (session.advance.write after)) := by
  unfold Ends step Outcome
  cases session.faults 0 with
  | true => simp
  | false => cases request session.tables <;> simp

/-- A boundary of a transaction meets a fault or changes the session as it
    should. -/
theorem ends_boundary {change : Session → Session} {session : Session}
    {failure : StoreFailure → Session → Prop} {success : Unit → Session → Prop} :
    (boundary change).Ends session failure success ↔
      (session.faults 0 = true → failure .storage session.advance) ∧
        (session.faults 0 = false → success () (change session.advance)) := by
  unfold Ends boundary
  cases session.faults 0 <;> simp

/-- What is known of the end of a procedure may be weakened. -/
theorem Ends.imp {procedure : Procedure α} {session : Session}
    {failure failure' : StoreFailure → Session → Prop} {success success' : α → Session → Prop}
    (hends : procedure.Ends session failure success)
    (hfailure : ∀ reason after, failure reason after → failure' reason after)
    (hsuccess : ∀ answer after, success answer after → success' answer after) :
    procedure.Ends session failure' success' := by
  unfold Ends at hends ⊢
  split at hends
  · exact hsuccess _ _ hends
  · exact hfailure _ _ hends

/-- Wherever a procedure fails, the stored tables are those from before. Without
    a fault it fails only where the request does, and for the same reason. -/
def LeavesStored (request : Transaction α) (session : Session) (reason : StoreFailure)
    (after : Session) : Prop :=
  after.stored = session.stored ∧
    (session.IsFaultless → request session.tables = .error reason)

/-- A part of a procedure does with the tables that it sees what a request does,
    unless a fault stops it. It leaves the stored tables alone, and it opens and
    ends no transaction. -/
def Mirrors (isOpen : Bool) (part : Procedure α) (request : Transaction α) : Prop :=
  ∀ session : Session, session.working.isSome = isOpen →
    part.Ends session (LeavesStored request session) fun answer after =>
      after.stored = session.stored ∧ after.working.isSome = isOpen ∧
        (session.IsFaultless → after.IsFaultless) ∧
        request session.tables = .ok (answer, after.tables)

/-- The rest of a procedure does with the tables that it sees what a request
    does, unless a fault stops it. If it succeeds, no transaction is open any
    more, and else the stored tables are those from before. -/
def Completes (isOpen : Bool) (rest : Procedure α) (request : Transaction α) : Prop :=
  ∀ session : Session, session.working.isSome = isOpen →
    rest.Ends session (LeavesStored request session) fun answer after =>
      after.working = none ∧ request session.tables = .ok (answer, after.tables)

section Rules

variable {isOpen : Bool} {part : Procedure α} {request : Transaction α}
  {next : α → Transaction β}

/-- A fault leaves what is stored alone. That the session has a fault explains
    the failure. -/
theorem LeavesStored.of_fault {session : Session} (hfault : session.faults 0 = true) :
    LeavesStored request session .storage session.advance := by
  refine ⟨rfl, fun hfaultless => ?_⟩
  rw [hfaultless 0] at hfault
  cases hfault

/-- What a failing first part leaves alone, the whole leaves alone. -/
theorem LeavesStored.bind {session after : Session} {reason : StoreFailure}
    (hleaves : LeavesStored request session reason after) :
    LeavesStored (request >>= next) session reason after := by
  refine ⟨hleaves.1, fun hfaultless => ?_⟩
  exact bind_eq_of_error (hleaves.2 hfaultless)

/-- A failure after a first part that left the stored tables alone leaves them
    alone too. -/
theorem LeavesStored.of_ok {session middle after : Session} {reason : StoreFailure} {answer : α}
    (hstored : middle.stored = session.stored)
    (hkept : session.IsFaultless → middle.IsFaultless)
    (hrun : request session.tables = .ok (answer, middle.tables))
    (hleaves : LeavesStored (next answer) middle reason after) :
    LeavesStored (request >>= next) session reason after := by
  refine ⟨hleaves.1.trans hstored, fun hfaultless => ?_⟩
  rw [bind_eq_of_ok hrun]
  exact hleaves.2 (hkept hfaultless)

/-- Parts that mirror requests make a whole that mirrors the whole. -/
theorem Mirrors.bind {second : α → Procedure β} (hfirst : part.Mirrors isOpen request)
    (hsecond : ∀ answer, (second answer).Mirrors isOpen (next answer)) :
    (part >>= second).Mirrors isOpen (request >>= next) := by
  intro session hopen
  rw [ends_bind]
  refine (hfirst session hopen).imp (fun _ _ => LeavesStored.bind) ?_
  rintro answer middle ⟨hstored, hmiddle, hkept, hrun⟩
  refine (hsecond answer middle hmiddle).imp (fun _ _ => .of_ok hstored hkept hrun) ?_
  rintro final after ⟨hafter, hisOpen, hfaults, hsucceeds⟩
  exact ⟨hafter.trans hstored, hisOpen, hfaults ∘ hkept, (bind_eq_of_ok hrun).trans hsucceeds⟩

/-- A part that mirrors a request, before one that completes the rest, completes
    the whole. -/
theorem Mirrors.completes {second : α → Procedure β} (hfirst : part.Mirrors isOpen request)
    (hsecond : ∀ answer, (second answer).Completes isOpen (next answer)) :
    (part >>= second).Completes isOpen (request >>= next) := by
  intro session hopen
  rw [ends_bind]
  refine (hfirst session hopen).imp (fun _ _ => LeavesStored.bind) ?_
  rintro answer middle ⟨hstored, hmiddle, hkept, hrun⟩
  refine (hsecond answer middle hmiddle).imp (fun _ _ => .of_ok hstored hkept hrun) ?_
  rintro final after ⟨hclosed, hsucceeds⟩
  exact ⟨hclosed, (bind_eq_of_ok hrun).trans hsucceeds⟩

/-- Where no transaction is opened, none is left open, so a procedure that only
    asks completes its request. -/
theorem Mirrors.completes_of_closed (hpart : part.Mirrors false request) :
    part.Completes false request := by
  intro session hclosed
  refine (hpart session hclosed).imp (fun _ _ => id) ?_
  rintro answer after ⟨-, hafter, -, hrun⟩
  exact ⟨Option.isSome_eq_false_iff.1 hafter |> Option.isNone_iff_eq_none.1, hrun⟩

theorem mirrors_pure (answer : α) : (pure answer : Procedure α).Mirrors isOpen (pure answer) :=
  fun _ hopen => ⟨rfl, hopen, id, rfl⟩

/-- A step may change the tables of an open transaction in any way, as nothing
    is stored yet. -/
theorem mirrors_step (request : Transaction α) : (step request).Mirrors true request := by
  intro session hopen
  obtain ⟨working, hworking⟩ := Option.isSome_iff_exists.1 hopen
  have hwrite : ∀ after, session.advance.write after =
      { session.advance with working := some after } := by
    intro after
    simp only [Session.write, Session.advance, hworking]
  refine ends_step.2 ⟨fun hfault => LeavesStored.of_fault hfault, fun _ => ?_⟩
  refine outcome_of_run (fun reason hrun => ⟨rfl, fun _ => hrun⟩) fun answer after hrun => ?_
  rw [hwrite]
  exact ⟨rfl, rfl, Session.IsFaultless.advance, hrun⟩

/-- Without a transaction a step may only ask, as a change would be stored at
    once. -/
theorem mirrors_question (hquestion : request.IsQuestion) :
    (step request).Mirrors false request := by
  intro session hclosed
  have hworking : session.working = none := by simpa using hclosed
  refine ends_step.2 ⟨fun hfault => LeavesStored.of_fault hfault, fun _ => ?_⟩
  refine outcome_of_run (fun reason hrun => ⟨rfl, fun _ => hrun⟩) fun answer after hrun => ?_
  have hsame : after = session.stored := by
    rw [(hquestion session.tables).of_ok hrun, Session.tables, hworking, Option.getD_none]
  have hwrite : session.advance.write after = session.advance := by
    rw [hsame]
    simp only [Session.write, Session.advance, hworking]
  have htables : session.advance.tables = after := by
    rw [hsame]
    simp only [Session.tables, Session.advance, hworking, Option.getD_none]
  rw [hwrite, htables]
  exact ⟨rfl, hclosed, Session.IsFaultless.advance, hrun⟩

/-- A transaction begins with the stored tables. If it does not begin, nothing
    has happened. -/
theorem completes_start {rest : Procedure α} (hrest : rest.Completes true request) :
    (start >>= fun _ => rest).Completes false request := by
  intro session hclosed
  rw [ends_bind]
  refine ends_boundary.2 ⟨fun hfault => LeavesStored.of_fault hfault, fun _ => ?_⟩
  have hworking : session.working = none := by simpa using hclosed
  have htables : session.advance.opened.tables = session.tables := rfl
  refine (hrest session.advance.opened rfl).imp ?_ ?_
  · rintro reason after ⟨hstored, hfails⟩
    exact ⟨hstored, fun hfaultless => hfails hfaultless.advance⟩
  · rintro answer after ⟨hafter, hrun⟩
    exact ⟨hafter, hrun⟩

/-- With the end of the transaction all that it has done is stored. If the end
    fails, it is all taken back. -/
theorem completes_commit (answer : α) :
    (commit >>= fun _ => pure answer : Procedure α).Completes true (pure answer) := by
  intro session _
  rw [ends_bind]
  refine ends_boundary.2 ⟨fun hfault => LeavesStored.of_fault hfault, fun _ => ?_⟩
  exact ⟨rfl, rfl⟩

end Rules

end Procedure

end PromptPacks
