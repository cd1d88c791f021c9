import Mathlib.Data.List.Forall2
import PromptPacks.Template.FreeNames
import PromptPacks.Template.Render

namespace PromptPacks.Template

/-- Parts of lists make a part of the whole. -/
theorem append_subset_append {α : Type} {front front' back back' : List α} (hfront : front ⊆ front')
    (hback : back ⊆ back') : front ++ back ⊆ front' ++ back' :=
  List.append_subset.2 ⟨List.Subset.trans hfront (List.subset_append_left _ _),
    List.Subset.trans hback (List.subset_append_right _ _)⟩

/-- A name has a value in a frame. -/
def Frame.Binds (frame : Frame) (name : String) : Prop :=
  (frame.locals.lookup name).isSome = true ∨ name = "loop" ∧ frame.loop.isSome = true

/-- A frame binds what it has just been given. -/
theorem Frame.binds_cons_self {frame : Frame} {name : String} {value : Value} :
    (⟨(name, value) :: frame.locals, frame.loop⟩ : Frame).Binds name := by
  simp [Frame.Binds]

/-- A frame keeps binding a name when another value is added. -/
theorem Frame.Binds.cons {frame : Frame} {name other : String} {value : Value}
    (hbinds : frame.Binds name) :
    (⟨(other, value) :: frame.locals, frame.loop⟩ : Frame).Binds name := by
  obtain hlocal | hloop := hbinds
  · refine .inl ?_
    rw [List.lookup_cons]
    split
    · rfl
    · exact hlocal
  · exact .inr hloop

/-- Each open frame has values for the names that are known to have one there. -/
def Covers (known : List (List String)) (frames : List Frame) : Prop :=
  List.Forall₂ (fun names frame => ∀ name ∈ names, frame.Binds name) known frames

namespace Covers

variable {known outer : List (List String)} {names less : List String} {frame : Frame}
  {frames : List Frame}

/-- It does no harm to know less of the innermost frame. -/
theorem weaken (hless : less ⊆ names) (hcovers : Covers (names :: outer) frames) :
    Covers (less :: outer) frames := by
  obtain ⟨_, _, hbinds, houter, rfl⟩ := List.forall₂_cons_left_iff.1 hcovers
  exact .cons (fun name hname => hbinds name (hless hname)) houter

/-- A frame may be changed as long as the names that are known of it keep a
    value. Which frame it is does not matter. -/
theorem modify (hcovers : Covers known frames) {change : Frame → Frame}
    (hkeeps : ∀ frame name, frame.Binds name → (change frame).Binds name) (index : Nat) :
    Covers known (frames.modify index change) := by
  induction hcovers generalizing index with
  | nil =>
    rw [List.modify_nil]
    exact .nil
  | cons hbinds houter ih =>
    cases index with
    | zero => exact .cons (fun name hname => hkeeps _ name (hbinds name hname)) houter
    | succ index => exact .cons hbinds (ih index)

/-- Within a loop there is a value for the loop itself. -/
theorem exists_loopValue? {outer : List Frame} (hloop : frame.loop.isSome = true) :
    ∃ value, Scope.loopValue? (frame :: outer) = some value := by
  obtain ⟨state, hstate⟩ := Option.isSome_iff_exists.1 hloop
  exact ⟨_, by rw [Scope.loopValue?, hstate]⟩

/-- A name that is known of one of the frames has a value there, so the context
    is not asked for it. -/
theorem exists_local? (hcovers : Covers known frames) {name : String}
    (hname : name ∈ known.flatten) : ∃ value, Scope.local? name frames = some value := by
  induction hcovers with
  | nil => cases hname
  | @cons names frame _ frames hbinds _ ih =>
    rw [Scope.local?]
    split
    next value _ => exact ⟨value, rfl⟩
    next hlocal =>
      split
      next hloop =>
        simp only [Bool.and_eq_true] at hloop
        exact exists_loopValue? hloop.2
      next hloop =>
        rw [List.flatten_cons, List.mem_append] at hname
        obtain hhere | hthere := hname
        · obtain hsome | ⟨rfl, hsome⟩ := hbinds name hhere
          · rw [hlocal] at hsome
            cases hsome
          · simp [hsome] at hloop
        · exact ih hthere

end Covers

namespace Scope

variable {context twin : Context} {known : List (List String)} {frames : List Frame}
  {name : String}

/-- The values that a template is rendered with count only for names without
    another value. So two contexts may differ on all others. -/
theorem valueOf_eq (hcovers : Covers known frames)
    (hname : name ∈ known.flatten ∨ context.get? name = twin.get? name) :
    valueOf ⟨context, frames⟩ name = valueOf ⟨twin, frames⟩ name := by
  obtain hbound | hsame := hname
  · obtain ⟨value, hvalue⟩ := hcovers.exists_local? hbound
    simp only [valueOf, hvalue]
  · simp only [valueOf, hsame]

end Scope

namespace Eval

variable {α β γ : Type} {context twin : Context} {known middle after outer : List (List String)}
  {names bound new newer : List String}

/-- Two runs of a calculation that differ in the values a template is rendered
    with. From frames with the known names both fail, or both give one result
    and the same frames, with names that are known afterwards. -/
def Coincide (context twin : Context) (known after : List (List String)) (action : Eval α) : Prop :=
  ∀ frames, Covers known frames →
    (action ⟨context, frames⟩ = none ∧ action ⟨twin, frames⟩ = none) ∨
      ∃ result changed, action ⟨context, frames⟩ = some (result, ⟨context, changed⟩) ∧
        action ⟨twin, frames⟩ = some (result, ⟨twin, changed⟩) ∧ Covers after changed

/-- A result that is given at once is the same in both runs. -/
theorem coincide_pure (result : α) : Coincide context twin known known (pure result : Eval α) :=
  fun frames hcovers => .inr ⟨result, frames, rfl, rfl, hcovers⟩

/-- A calculation that fails does so in both runs. -/
theorem coincide_fail : Coincide context twin known after (fail : Eval α) :=
  fun _ _ => .inl ⟨rfl, rfl⟩

/-- A result that may be missing is missing in both runs. -/
theorem coincide_ofOption (result : Option α) :
    Coincide context twin known known (ofOption result) := by
  cases result with
  | none => exact fun _ _ => .inl ⟨rfl, rfl⟩
  | some result => exact coincide_pure result

/-- Calculations one after the other: what the first one binds is known to the
    second. -/
theorem Coincide.bind {action : Eval α} {next : α → Eval β}
    (haction : Coincide context twin known middle action)
    (hnext : ∀ result, Coincide context twin middle after (next result)) :
    Coincide context twin known after (action >>= next) := by
  intro frames hcovers
  change ((action _).bind (fun run => next run.1 run.2) = none ∧
    (action _).bind (fun run => next run.1 run.2) = none) ∨ ∃ result changed,
      (action _).bind (fun run => next run.1 run.2) = _ ∧
        (action _).bind (fun run => next run.1 run.2) = _ ∧ _
  obtain ⟨hrun, htwin⟩ | ⟨result, changed, hrun, htwin, hmiddle⟩ := haction frames hcovers
  · rw [hrun, htwin]
    exact .inl ⟨rfl, rfl⟩
  · rw [hrun, htwin]
    exact hnext result changed hmiddle

/-- Knowing less afterwards is always possible. -/
theorem Coincide.weaken {less : List String} {action : Eval α}
    (haction : Coincide context twin known (names :: outer) action) (hless : less ⊆ names) :
    Coincide context twin known (less :: outer) action := by
  intro frames hcovers
  obtain hfails | ⟨result, changed, hrun, htwin, hafter⟩ := haction frames hcovers
  · exact .inl hfails
  · exact .inr ⟨result, changed, hrun, htwin, hafter.weaken hless⟩

/-- A calculation may look at the scope, if it goes on in the same way in both
    runs. -/
theorem coincide_get {next : Scope → Eval α}
    (hsame : ∀ frames, Covers known frames → next ⟨context, frames⟩ = next ⟨twin, frames⟩)
    (hnext : ∀ scope, Coincide context twin known after (next scope)) :
    Coincide context twin known after (get >>= next) := by
  intro frames hcovers
  change (next ⟨context, frames⟩ _ = none ∧ next ⟨twin, frames⟩ _ = none) ∨
    ∃ result changed, next ⟨context, frames⟩ _ = _ ∧ next ⟨twin, frames⟩ _ = _ ∧ _
  rw [hsame frames hcovers]
  exact hnext _ frames hcovers

/-- The innermost frame is changed in the same way in both runs. What is bound
    afterwards has to be shown of the change. -/
theorem coincide_mapFrame (new : List String) {change : Frame → Frame}
    (hbinds : ∀ frame : Frame, (∀ name ∈ names, frame.Binds name) →
      ∀ name ∈ new, (change frame).Binds name) :
    Coincide context twin (names :: outer) (new :: outer) (modify (Scope.mapFrame change)) := by
  intro frames hcovers
  obtain ⟨frame, rest, hframe, hrest, rfl⟩ := List.forall₂_cons_left_iff.1 hcovers
  exact .inr ⟨(), change frame :: rest, rfl, rfl, .cons (hbinds frame hframe) hrest⟩

/-- Counting the rounds of a loop changes no value. -/
theorem coincide_mapLoop (level : Nat) (change : LoopState → LoopState) :
    Coincide context twin known known (modify (Scope.mapLoop level change)) := by
  intro frames hcovers
  refine .inr ⟨(), _, rfl, rfl, hcovers.modify (fun frame name hbinds => ?_) _⟩
  obtain hlocal | ⟨hname, hloop⟩ := hbinds
  · exact .inl hlocal
  · exact .inr ⟨hname, by rwa [Option.isSome_map]⟩

/-- What is done in a frame of its own, as a function of the scope. -/
theorem framed_apply {body : Eval α} {scope : Scope} :
    framed body scope = if Scope.maxFrames < scope.frames.length then none
      else (body { scope with frames := ⟨[], none⟩ :: scope.frames }).bind fun run =>
        some (run.1, { run.2 with frames := run.2.frames.tail }) := by
  change (if Scope.maxFrames < scope.frames.length then fail else _ : Eval α) scope = _
  split <;> rfl

/-- What is given a value in a frame of its own is forgotten with the frame. The
    frames around it still cover the same names. -/
theorem Coincide.framed {body : Eval α}
    (hbody : Coincide context twin ([] :: known) (names :: known) body) :
    Coincide context twin known known (Eval.framed body) := by
  intro frames hcovers
  rw [framed_apply, framed_apply]
  split
  · exact .inl ⟨rfl, rfl⟩
  · obtain ⟨hrun, htwin⟩ | ⟨result, changed, hrun, htwin, hafter⟩ :=
      hbody (⟨[], none⟩ :: frames) (.cons (by simp) hcovers)
    · rw [hrun, htwin]
      exact .inl ⟨rfl, rfl⟩
    · obtain ⟨_, rest, -, hrest, rfl⟩ := List.forall₂_cons_left_iff.1 hafter
      rw [hrun, htwin]
      exact .inr ⟨result, rest, rfl, rfl, hrest⟩

mutual

/-- The names of a target have a value afterwards, also where the target unpacks
    a list. -/
theorem coincide_bind (value : Value) (target : Target) (names : List String) :
    Coincide context twin (names :: outer) ((target.names ++ names) :: outer)
      (Eval.bind value target) := by
  cases target with
  | «variable» name =>
    refine coincide_mapFrame _ fun frame hbinds other hother => ?_
    obtain rfl | hother := List.mem_cons.1 hother
    · exact Frame.binds_cons_self
    · exact Frame.Binds.cons (hbinds other hother)
  | property subject name => exact coincide_fail
  | tuple targets =>
    exact (coincide_ofOption _).bind fun items => coincide_bindAll items targets names

/-- The same for several targets and values. There must be as many of the one as
    of the other, or both runs fail. -/
theorem coincide_bindAll (values : List Value) (targets : List Target) (names : List String) :
    Coincide context twin (names :: outer) ((namesOfTargets targets ++ names) :: outer)
      (Eval.bindAll values targets) := by
  cases targets with
  | nil =>
    rw [Eval.bindAll]
    split
    · exact coincide_pure ()
    · exact coincide_fail
  | cons target rest =>
    cases values with
    | nil => exact coincide_fail
    | cons value others =>
      rw [Eval.bindAll]
      refine ((coincide_bind value target names).bind fun _ =>
        coincide_bindAll others rest _).weaken ?_
      intro name hname
      simp only [namesOfTargets, List.mem_append] at hname ⊢
      tauto

end

/-- The items of a loop are chosen alike in both runs. -/
theorem coincide_keepWhere {target : Target} {test : Eval Bool}
    (htest : Coincide context twin (target.names :: outer) (names :: outer) test)
    (items : List Value) :
    Coincide context twin ([] :: outer) ([] :: outer) (keepWhere target test items) := by
  induction items with
  | nil => exact coincide_pure []
  | cons item rest ih =>
    rw [keepWhere]
    refine (coincide_mapFrame [] (by simp)).bind fun _ => ?_
    refine (coincide_bind item target []).bind fun _ => ?_
    rw [List.append_nil]
    refine (htest.weaken (List.nil_subset _)).bind fun holds => ?_
    exact ih.bind fun kept => coincide_pure _

/-- A round knows the loop and the names of its target, whatever the rounds
    before it knew. The induction is on the items that are left. -/
theorem coincide_rounds {action : Eval (List Char)} {target : Target} {recursive : Bool}
    {length depth : Nat}
    (hround : Coincide context twin ((target.names ++ ["loop"]) :: outer) (names :: outer) action)
    (items : List Value) (index : Nat) (previous : Value) :
    Coincide context twin ([] :: outer) ([] :: outer)
      (rounds action target recursive length depth index previous items) := by
  induction items generalizing index previous with
  | nil => exact coincide_pure []
  | cons item rest ih =>
    rw [rounds]
    refine (coincide_mapFrame ["loop"] ?_).bind fun _ => ?_
    · intro frame _ name hname
      exact .inr ⟨List.mem_singleton.1 hname, rfl⟩
    · refine (coincide_bind item target ["loop"]).bind fun _ => ?_
      refine (hround.weaken (List.nil_subset _)).bind fun output => ?_
      exact (ih (index + 1) item).bind fun later => coincide_pure _

/-- A calculation that reads no other names than bound ones comes to the same
    result whatever the template is rendered with. It gives values to further
    names of its own frame. -/
def Blind (context twin : Context) (bound new : List String) (action : Eval α) : Prop :=
  ∀ names outer, bound ⊆ names ++ outer.flatten →
    Coincide context twin (names :: outer) ((new ++ names) :: outer) action

/-- Where more names are bound, no more has to be agreed on. -/
theorem Blind.mono {action : Eval α} {more : List String}
    (haction : Blind context twin bound new action) (hmore : bound ⊆ more) :
    Blind context twin more new action :=
  fun names outer hbound => haction names outer (List.Subset.trans hmore hbound)

/-- What a calculation binds may be forgotten. -/
theorem Blind.forget {action : Eval α} (haction : Blind context twin bound new action) :
    Blind context twin bound [] action :=
  fun names outer hbound => (haction names outer hbound).weaken (List.subset_append_right _ _)

/-- A result that is given at once depends on no name. -/
theorem blind_pure (result : α) : Blind context twin bound [] (pure result : Eval α) :=
  fun _ _ _ => coincide_pure result

/-- A failure depends on no name, and may be said to bind any. -/
theorem blind_fail : Blind context twin bound new (fail : Eval α) :=
  fun _ _ _ => coincide_fail

/-- A result that may be missing depends on no name. -/
theorem blind_ofOption (result : Option α) : Blind context twin bound [] (ofOption result) :=
  fun _ _ _ => coincide_ofOption result

/-- The names that one calculation gives values to are bound in the next one, so
    the contexts need not agree on them there. -/
theorem Blind.seq {action : Eval α} {next : α → Eval β}
    (haction : Blind context twin bound new action)
    (hnext : ∀ result, Blind context twin (new ++ bound) newer (next result)) :
    Blind context twin bound (newer ++ new) (action >>= next) := by
  intro names outer hbound
  rw [List.append_assoc]
  refine (haction names outer hbound).bind fun result => hnext result _ outer ?_
  rw [List.append_assoc]
  exact append_subset_append (List.Subset.refl _) hbound

/-- The same for a first calculation that binds nothing. -/
theorem Blind.bind {action : Eval α} {next : α → Eval β}
    (haction : Blind context twin bound [] action)
    (hnext : ∀ result, Blind context twin bound new (next result)) :
    Blind context twin bound new (action >>= next) :=
  fun names outer hbound =>
    (haction names outer hbound).bind fun result => hnext result names outer hbound

/-- Changing the result of a calculation looks at no name. -/
theorem Blind.returning {action : Eval α} (haction : Blind context twin bound new action)
    (result : α → β) : Blind context twin bound new (do return result (← action)) :=
  haction.seq fun _ => blind_pure _

/-- An assignment looks at no name and binds those of its target. -/
theorem blind_bind (value : Value) (target : Target) :
    Blind context twin bound target.names (Eval.bind value target) :=
  fun names _ _ => coincide_bind value target names

/-- What is done in a frame of its own binds nothing outside of it. -/
theorem Blind.framed {body : Eval α} (hbody : Blind context twin bound new body) :
    Blind context twin bound [] (Eval.framed body) :=
  fun names outer hbound => (hbody [] (names :: outer) hbound).framed

/-- The value of a bound name, or of one that both contexts give the same value.
    What is done with the value may be anything that is blind itself. -/
theorem blind_valueOf {name : String}
    (hname : name ∈ bound ∨ context.get? name = twin.get? name) {next : Value → Eval α}
    (hnext : ∀ value, Blind context twin bound new (next value)) :
    Blind context twin bound new (get >>= fun scope => next (scope.valueOf name)) := by
  intro names outer hbound
  refine coincide_get (fun frames hcovers => ?_) fun scope => hnext _ names outer hbound
  rw [Scope.valueOf_eq hcovers (hname.imp_left fun hmem => hbound hmem)]

/-- The items of a loop are chosen alike if the condition is blind where the
    target is bound. -/
theorem blind_keepWhere {target : Target} {test : Eval Bool}
    (htest : Blind context twin (target.names ++ bound) new test) (items : List Value) :
    Blind context twin bound [] (Eval.framed (keepWhere target test items)) := by
  intro names outer hbound
  have hinside := append_subset_append (List.Subset.refl target.names) hbound
  exact (coincide_keepWhere (htest target.names (names :: outer) hinside) items).framed

/-- A loop is blind if its body is. In the body the names of the target and the
    loop itself are bound. The induction is on the levels: a recursive loop that
    goes over the items of a value opens one loop less. -/
theorem blind_loopOver {run : Option (Value → Eval (List Char)) → Eval (List Char)}
    {target : Target} {recursive : Bool}
    (hrun : ∀ descend : Option (Value → Eval (List Char)),
      (∀ go ∈ descend, ∀ value, Blind context twin bound [] (go value)) →
        Blind context twin (target.names ++ "loop" :: bound) new (run descend))
    (levels : Nat) (items : List Value) :
    Blind context twin bound [] (loopOver run target recursive levels items) := by
  induction levels generalizing items with
  | zero => exact fun _ _ _ => coincide_fail
  | succ levels ih =>
    intro names outer hbound
    have hdescend : ∀ go ∈ (if recursive then
        some fun value => ofOption (Value.items? value) >>= loopOver run target recursive levels
        else none), ∀ value, Blind context twin bound [] (go value) := by
      intro go hgo value
      split at hgo
      · cases hgo
        exact fun names outer hbound =>
          (coincide_ofOption _).bind fun items => ih items names outer hbound
      · cases hgo
    have hinside : target.names ++ "loop" :: bound ⊆
        (target.names ++ ["loop"]) ++ (names :: outer).flatten := by
      intro name hname
      simp only [List.mem_append, List.mem_cons, List.flatten_cons] at hname ⊢
      obtain htarget | hloop | hname := hname
      · exact .inl (.inl htarget)
      · exact .inl (.inr (.inl hloop))
      · exact .inr (List.mem_append.1 (hbound hname))
    refine coincide_get (fun _ _ => rfl) fun scope => ?_
    exact (coincide_rounds (hrun _ hdescend _ _ hinside) items 0 .undefined).framed

/-- Noting a change in a loop looks at the loop only. -/
theorem blind_noteChange (level : Nat) (values : List Value) :
    Blind context twin bound [] (noteChange level values) := by
  intro names outer _
  refine coincide_get (fun _ _ => rfl) fun scope => ?_
  refine (coincide_ofOption _).bind fun state => ?_
  split
  · exact coincide_pure _
  · exact Coincide.bind (coincide_mapLoop level _) fun _ => coincide_pure _

end Eval

end PromptPacks.Template
