import LagrangeDb.Transaction.Discipline

namespace LagrangeDb.Transaction

open Data LagrangeDb.Participant
open Data.Program (Safe)

/-! One rule for each call: what has to hold where it is made, and what is
known where the program goes on. -/

variable {setting : Setting} {party : Party}

structure Later (party : Party) (scene before : Scene setting) : Prop where
  grows : scene.Grows before
  core : party = .operation → before.core = scene.core
  sound : before.Sound

theorem Later.trans (h : Later party first second)
    (hnext : Later party second third) : Later party first third :=
  ⟨h.grows.trans hnext.grows, fun hparty => (hnext.core hparty).trans (h.core hparty), hnext.sound⟩

theorem Later.refl {scene : Scene setting} (h : scene.Sound) : Later party scene scene :=
  ⟨.refl scene, fun _ => rfl, h⟩

variable {α : Type}
  {scene : Scene setting}

theorem safe_update (hkeep : ∀ before, Later party scene before →
      (change before.memory).Sound before.cluster ∧ before.memory.Keeps (change before.memory) ∧
      (party = .task → (change before.memory).core = before.memory.core))
    (hnext : ∀ before : Scene setting, Later party scene before →
      Scene.Sound { before with memory := change before.memory } →
      SafeBy party post (rest before.memory) { before with memory := change before.memory }) :
    SafeBy party post (updateMemory change >>= rest) scene := by
  intro before hrely hsound
  have hlater : Later party scene before := ⟨hrely.1, hrely.2, hsound⟩
  refine ⟨trivial, ?_⟩
  rintro answer after ⟨response, hrun⟩
  cases response with
  | go =>
    simp only [Call.run] at hrun
    cases hrun
    obtain ⟨hmemory, hkeeps, hcore⟩ := hkeep before hlater
    have hafter : Scene.Sound { before with memory := change before.memory } := ⟨hsound.1, hmemory⟩
    exact ⟨hafter, ⟨⟨.refl _, hkeeps⟩, hcore⟩, hnext before hlater hafter⟩
  | _ => cases hrun

theorem safe_read
    (hnext : ∀ before, Later party scene before → SafeBy party post (rest before.memory) before) :
    SafeBy party post (readMemory >>= rest) scene :=
  safe_update
    (fun _ hlater => ⟨hlater.sound.2, .refl _, fun _ => rfl⟩)
    (fun before hlater _ => hnext before hlater)

/-- What is known after a write: it may have been applied, and it was when its
answer says so. -/
structure Written (mutation : Mutation) (before after : Scene setting)
    (answer : Option Bool) : Prop where
  grows : before.Grows after
  memory : after.memory = before.memory
  sound : after.Sound
  changed : answer = some true → mutation.Effect before.cluster.store after.cluster.store true

theorem safe_mutate {mutation : Mutation} {rest : Option Bool → Prog α}
    (hadmissible : ∀ before : Scene setting, Later party scene before →
      before.cluster.Admissible mutation) (hnext : ∀ before after answer, Later party scene before →
      Written mutation before after answer → SafeBy party post (rest answer) after) :
    SafeBy party post (mutate mutation >>= rest) scene := by
  intro before hrely hsound
  have hlater : Later party scene before := ⟨hrely.1, hrely.2, hsound⟩
  have hmutation := hadmissible before hlater
  refine ⟨trivial, ?_⟩
  rintro answer after ⟨response, hrun⟩
  cases response with
  | write applied acknowledged =>
    have hwritten : Written mutation before after answer := by
      simp only [Call.run] at hrun
      cases hrun
      cases applied with
      | false =>
        refine ⟨⟨⟨fun _ h => h, fun h => ⟨h, rfl⟩, fun _ h => h,
          fun _ h => h⟩, .refl _⟩, rfl, ?_, ?_⟩
        · exact ⟨hsound.1.post hmutation, hsound.2.grows
            ⟨fun _ h => h, fun h => ⟨h, rfl⟩, fun _ h => h, fun _ h => h⟩⟩
        · intro hanswer
          cases hanswer
      | true =>
        have heffect := mutation.apply_effect before.cluster.store
        have hgrows := Cluster.grows_of_effect hmutation heffect
        have hstored := hsound.1.effect hmutation heffect
        refine ⟨⟨⟨hgrows.decision, hgrows.frozen, hgrows.admitted,
          hgrows.held⟩, .refl _⟩, rfl, ?_, ?_⟩
        · exact ⟨hstored.post (hmutation.grows hgrows),
            hsound.2.grows ⟨hgrows.decision, hgrows.frozen, hgrows.admitted, hgrows.held⟩⟩
        intro hanswer
        cases acknowledged with
        | false => cases hanswer
        | true =>
          have hchanged : (mutation.apply before.cluster.store).2 =
              true := Option.some.inj hanswer
          rw [hchanged] at heffect
          exact heffect
    refine ⟨hwritten.sound, ⟨hwritten.grows, fun _ => ?_⟩,
      hnext before after answer hlater hwritten⟩
    rw [hwritten.memory]
  | _ => cases hrun

theorem safe_send {rest : Unit → Prog α}
    (hpermits : ∀ before : Scene setting, Later party scene before → before.cluster.Permits request)
    (hnext : ∀ after, Later party scene after → SafeBy party post (rest ()) after) :
    SafeBy party post (perform (Call.send request) >>= rest) scene := by
  intro before hrely hsound
  have hlater : Later party scene before := ⟨hrely.1, hrely.2, hsound⟩
  refine ⟨trivial, ?_⟩
  rintro answer after ⟨response, hrun⟩
  cases response with
  | go =>
    simp only [Call.run] at hrun
    cases hrun
    have hgrows : Scene.Grows before { before with
        cluster.requests := request :: before.cluster.requests } :=
      ⟨⟨fun _ h => h, fun h => ⟨h, rfl⟩, fun _ h => h, fun _ h => h⟩, .refl _⟩
    have hafter : Scene.Sound { before with
        cluster.requests := request :: before.cluster.requests } :=
      ⟨hsound.1.send (hpermits before hlater), hsound.2.grows hgrows.cluster⟩
    exact ⟨hafter, ⟨hgrows, fun _ => rfl⟩, hnext _ (hlater.trans ⟨hgrows, fun _ => rfl, hafter⟩)⟩
  | _ => cases hrun

theorem safe_quiet {request : Call} {rest : request.Answer → Prog α}
    (hrequires : ∀ before, Later party scene before →
      (discipline setting party).requires request before)
    (hquiet : ∀ (before : Scene setting) answer after,
      Performs request before answer after → after = before)
    (hnext : ∀ before answer, Later party scene before →
      Performs request before answer before → SafeBy party post (rest answer) before) :
    SafeBy party post (perform request >>= rest) scene := by
  intro before hrely hsound
  have hlater : Later party scene before := ⟨hrely.1, hrely.2, hsound⟩
  refine ⟨hrequires before hlater, ?_⟩
  intro answer after hperforms
  obtain rfl := hquiet before answer after hperforms
  exact ⟨hsound, ⟨.refl _, fun _ => rfl⟩, hnext after answer hlater hperforms⟩

theorem safe_readRow {rest : Option TransactionRow → Prog α}
    (hnext : ∀ (before : Scene setting) answer, Later party scene before →
      (∀ row, answer = some row → row = before.cluster.store.row) →
      SafeBy party post (rest answer) before) : SafeBy party post (readRow >>= rest) scene := by
  refine safe_quiet (fun _ _ => trivial) ?_ ?_
  · rintro before answer after ⟨response, hrun⟩
    cases response <;> cases hrun
    rfl
  rintro before answer hlater ⟨response, hrun⟩
  refine hnext before answer hlater ?_
  rintro row rfl
  cases response with
  | read available => cases available <;> cases hrun; rfl
  | _ => cases hrun

theorem safe_readParticipants {rest : Option ParticipantRecords → Prog α}
    (hnext : ∀ (before : Scene setting) answer, Later party scene before →
      (∀ rows, answer = some rows → rows = before.cluster.store.participants) →
      SafeBy party post (rest answer) before) :
    SafeBy party post (readParticipants >>= rest) scene := by
  refine safe_quiet (fun _ _ => trivial) ?_ ?_
  · rintro before answer after ⟨response, hrun⟩
    cases response <;> cases hrun
    rfl
  rintro before answer hlater ⟨response, hrun⟩
  refine hnext before answer hlater ?_
  rintro rows rfl
  cases response with
  | read available => cases available <;> cases hrun; rfl
  | _ => cases hrun

theorem safe_receive {rest : Except Failure ParticipantAnswer → Prog α}
    (hnext : ∀ (before : Scene setting) answer, Later party scene before →
      (∀ found, answer = .ok found → ∃ reply, reply ∈ before.cluster.replies ∧
          reply.answers request = true ∧ reply.answer = found) →
      SafeBy party post (rest answer) before) :
    SafeBy party post (receive request >>= rest) scene := by
  have hread : ∀ {before after : Scene setting}
      {answer : Except Failure ParticipantAnswer} {response : Response},
      (Call.receive request).run before response = some (answer, after) →
      after = before ∧ ∀ found, answer = .ok found →
        ∃ reply, reply ∈ before.cluster.replies ∧
          reply.answers request = true ∧ reply.answer = found := by
    intro before after answer response hrun
    cases response with
    | reply index =>
      simp only [Call.run] at hrun
      split at hrun
      · cases hrun
      next reply hreply =>
      split at hrun
      on_goal 2 => cases hrun
      next hanswers =>
      cases hrun
      refine ⟨rfl, ?_⟩
      rintro found hfound
      cases hfound
      exact ⟨reply, List.mem_of_getElem? hreply, hanswers, rfl⟩
    | fail failure =>
      cases hrun
      exact ⟨rfl, fun found hfound => by cases hfound⟩
    | _ => cases hrun
  refine safe_quiet (fun _ _ => trivial) ?_ ?_
  · rintro before answer after ⟨response, hrun⟩
    exact (hread hrun).1
  · rintro before answer hlater ⟨response, hrun⟩
    exact hnext before answer hlater (hread hrun).2

theorem safe_begin {partitionId : String} {rest : Except Failure Unit → Prog α}
    (hnext : ∀ before answer, Later party scene before → SafeBy party post (rest answer) before) :
    SafeBy party post (perform (Call.begin partitionId) >>= rest) scene := by
  refine safe_quiet (fun _ _ => trivial) ?_
    (fun before answer hlater _ => hnext before answer hlater)
  rintro before answer after ⟨response, hrun⟩
  cases response <;> cases hrun <;> rfl

theorem safe_budgetExceeded {rest : Bool → Prog α}
    (hnext : ∀ before answer, Later party scene before → SafeBy party post (rest answer) before) :
    SafeBy party post (isTransactionBudgetExceeded >>= rest) scene := by
  refine safe_quiet (fun _ _ => trivial) ?_
    (fun before answer hlater _ => hnext before answer hlater)
  rintro before answer after ⟨response, hrun⟩
  cases response <;> cases hrun
  rfl

theorem safe_attempts {rest : Nat → Prog α}
    (hnext : ∀ before answer, Later party scene before → SafeBy party post (rest answer) before) :
    SafeBy party post (perform Call.attempts >>= rest) scene := by
  refine safe_quiet (fun _ _ => trivial) ?_
    (fun before answer hlater _ => hnext before answer hlater)
  rintro before answer after ⟨response, hrun⟩
  cases response <;> cases hrun
  rfl

theorem safe_stage {tasks : List Task} {rest : Except Failure (List FailedParticipant) → Prog α}
    (hready : ∀ before : Scene setting, Later .operation scene before →
      ∀ task, task ∈ tasks → before.Ready task)
    (hnext : ∀ before answer, Later .operation scene before →
      SafeBy .operation post (rest answer) before) :
    SafeBy .operation post (awaitStage tasks >>= rest) scene :=
  safe_quiet (fun before hlater => ⟨rfl, hready before hlater⟩)
    (fun _ _ _ h => h) (fun before answer hlater _ => hnext before answer hlater)

structure Reached (scene final : Scene setting) : Prop where
  grows : scene.Grows final
  sound : final.Sound

theorem Later.reached (h : Later party scene before) :
    Reached scene before :=
  ⟨h.grows, h.sound⟩

theorem Reached.trans (h : Reached first second) (hnext : Reached second third) :
    Reached first third :=
  ⟨h.grows.trans hnext.grows, hnext.sound⟩

theorem safe_reached (hsound : scene.Sound) (h : SafeBy party post program scene) : SafeBy party
      (fun final result => Reached scene final ∧ post final result)
      program scene := by
  have hrely : ∀ {first second : Scene setting},
      (discipline setting party).rely first second → first.Grows second :=
    And.left
  have hguarantee : ∀ {first second : Scene setting},
      (discipline setting party).guarantee first second →
      first.Grows second := And.left
  refine Safe.mono ?_ (Program.Safe.track Scene.Grows.refl Scene.Grows.trans
    hrely hguarantee hsound h)
  rintro final result ⟨hfinal, hgrows, hpost⟩
  exact ⟨⟨hgrows, hfinal⟩, hpost⟩

variable {β : Type}

theorem safe_seq {program : Prog β} {rest : β → Prog α} (hsound : scene.Sound)
    (h : SafeBy party mid program scene)
    (hvalue : ∀ final value, Reached scene final → mid final (.ok value) →
      SafeBy party post (rest value) final) (herror : ∀ final failure, Reached scene final →
      mid final (.error failure) → post final (.error failure)) :
    SafeBy party post (program >>= rest) scene :=
  Program.Safe.bind (fun final value hmid => hvalue final value hmid.1 hmid.2)
    (fun final failure hmid => herror final failure hmid.1 hmid.2)
    (safe_reached hsound h)

theorem safe_handle {mid : Scene setting → Except Failure α → Prop}
    {handler : Failure → Prog α} (hsound : scene.Sound) (h : SafeBy party mid program scene)
    (hvalue : ∀ final value, Reached scene final → mid final (.ok value) → post final (.ok value))
    (herror : ∀ final failure, Reached scene final →
      mid final (.error failure) → SafeBy party post (handler failure) final) :
    SafeBy party post (tryCatch program handler) scene :=
  Program.Safe.handle
    (fun final value hmid => hvalue final value hmid.1 hmid.2)
    (fun final failure hmid => herror final failure hmid.1 hmid.2)
    (safe_reached hsound h)

theorem safe_attempt {program : Prog β} {rest : Except Failure β → Prog α}
    (hsound : scene.Sound) (h : SafeBy party mid program scene)
    (hnext : ∀ final result, Reached scene final → mid final result →
      SafeBy party post (rest result) final) :
    SafeBy party post (attempt program >>= rest) scene := by
  refine safe_seq hsound (Program.Safe.caught h) ?_ ?_
  · rintro final value hreached ⟨found, hfound, hmid⟩
    cases hfound
    exact hnext final value hreached hmid
  · rintro final failure hreached ⟨found, hfound, hmid⟩
    cases hfound

end LagrangeDb.Transaction
