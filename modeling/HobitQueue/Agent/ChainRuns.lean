import HobitQueue.Lib.CanonicalForm
import HobitQueue.Agent.ChainRequests

/-!
# Runs of chains of actions

The events of a chain are written down from its start on, in whatever order outputs and answers
come.

## Main results

* `kept_perform` — every step keeps the events orderly and the state in step with them.
* `requests_bounded_and_distinct` — a chain makes a bounded number of requests, none twice.
* `confirmations_granted` — a confirmation is supplied for the next action of the last answer,
  within the grant of the operator.
* `grant_ends_with_chain` — no confirmation is supplied after the chain of a grant.
-/

namespace HobitQueue.Agent

open JavaScript Machine

/-! ## Reading a log -/

/-- The requests of a log. -/
def requests (log : List ChainEvent) : List ActionRequest :=
  log.filterMap fun event =>
    match event with
    | .invoked _ request => some request
    | _ => none

/-- The turns to repair an output. -/
def repairs (log : List ChainEvent) : ℕ :=
  log.countP fun event =>
    match event with
    | .repaired => true
    | _ => false

/-- The grant that a chain started with. -/
def grantOf (log : List ChainEvent) : Option QueueAutonomyGrant :=
  match log with
  | .started grant :: _ => grant
  | _ => none

/-- The number of actions that a grant leaves to a chain. -/
def budgetOf (grant : Option QueueAutonomyGrant) : ℕ :=
  min ((grant.bind (·.maxActions)).getD workspaceAgentBrokerContinuationMaxActions)
    workspaceAgentBrokerContinuationMaxActions

/-- The next action of an output, when it passes its check. -/
def validNextAction (setting : Setting) (output : Option Json) : Option Members :=
  (queueResultNextAction output).filter (validateHobitNextAction setting.tables)

/-- The next action of the last answer, when no request followed it; the log is read backwards. -/
def pendingOf (setting : Setting) : List ChainEvent → Option Members
  | .answered output :: _ => validNextAction setting output
  | .repaired :: earlier => pendingOf setting earlier
  | _ => none

@[simp] theorem requests_started (grant : Option QueueAutonomyGrant) :
    requests [.started grant] = [] := rfl

@[simp] theorem requests_invoked (log : List ChainEvent) (injected : Bool)
    (request : ActionRequest) :
    requests (log ++ [.invoked injected request]) = requests log ++ [request] := by
  simp [requests]

@[simp] theorem requests_answered (log : List ChainEvent) (output : Option Json) :
    requests (log ++ [.answered output]) = requests log := by
  simp [requests]

@[simp] theorem requests_repaired (log : List ChainEvent) :
    requests (log ++ [.repaired]) = requests log := by
  simp [requests]

@[simp] theorem repairs_invoked (log : List ChainEvent) (injected : Bool)
    (request : ActionRequest) : repairs (log ++ [.invoked injected request]) = repairs log := by
  simp [repairs]

@[simp] theorem repairs_answered (log : List ChainEvent) (output : Option Json) :
    repairs (log ++ [.answered output]) = repairs log := by
  simp [repairs]

@[simp] theorem repairs_repaired (log : List ChainEvent) :
    repairs (log ++ [.repaired]) = repairs log + 1 := by
  simp [repairs]

theorem grantOf_concat {log : List ChainEvent} (h : log ≠ []) (event : ChainEvent) :
    grantOf (log ++ [event]) = grantOf log := by
  cases log with
  | nil => exact absurd rfl h
  | cons first log => cases first <;> rfl

/-- A pending next action is the one of an answer that only repairs followed. -/
theorem answered_of_pendingOf {setting : Setting} {log : List ChainEvent} {action : Members}
    (h : pendingOf setting log.reverse = some action) :
    ∃ before output turns, log = before ++ .answered output :: turns ∧
      (∀ event ∈ turns, event = .repaired) ∧
      validNextAction setting output = some action := by
  induction log using List.reverseRecOn with
  | nil => cases h
  | append_singleton log event ih =>
    rw [List.reverse_append, List.reverse_singleton, List.singleton_append] at h
    cases event with
    | answered output =>
      exact ⟨log, output, [], rfl, fun event hevent => (List.not_mem_nil hevent).elim, h⟩
    | repaired =>
      obtain ⟨before, output, turns, rfl, hturns, hvalid⟩ := ih h
      refine ⟨before, output, turns ++ [.repaired], by simp, fun event hevent => ?_, hvalid⟩
      rcases List.mem_append.1 hevent with hevent | hevent
      · exact hturns event hevent
      · exact List.mem_singleton.1 hevent
    | started grant => cases h
    | invoked injected request => cases h

/-! ## The invariant -/

/-- The state of a chain, read off its events. -/
structure Tracks (setting : Setting) (state : WorkspaceAgentBrokerContinuationState)
    (log : List ChainEvent) : Prop where
  headed : log ≠ []
  grant : state.queueAutonomyGrant = grantOf log
  policy : state.queueAutonomyPolicy = policyOf (grantOf log)
  budget : state.maxActions = budgetOf (grantOf log)
  count : state.actionCount = (requests log).length
  within : (requests log).length ≤ state.maxActions
  fingerprints :
    state.seenRequestFingerprints = (requests log).map workspaceAgentBrokerActionFingerprint
  ids : state.seenRequestIds = (requests log).map (·.requestId)
  repair : repairs log = if state.protocolRepairAttempted then 1 else 0
  pending : state.pendingNextAction = pendingOf setting log.reverse

/-- A request whose confirmation was supplied, after the earlier events. -/
structure Confirmed (setting : Setting) (grant : QueueAutonomyGrant) (earlier : List ChainEvent)
    (request : ActionRequest) : Prop where
  token : grant.confirmationToken = some queueStartRunConfirmationToken
  supplied : ∃ entry ∈ suppliedConfirmations,
    entry.1 = request.capabilityId ∧ grant.mode ∈ entry.2
  permitted : ∃ contract, queueCapabilityContractById request.capabilityId = some contract ∧
    Permits (createQueueAutonomyPolicy grant) request.capabilityId contract
  answered : ∃ before output turns action, earlier = before ++ .answered output :: turns ∧
    (∀ event ∈ turns, event = .repaired) ∧
    validNextAction setting output = some action ∧
    actionRequestMatchesNextAction request action = true

/-- What holds of the events of a chain. -/
structure Orderly (setting : Setting) (log : List ChainEvent) : Prop where
  bounded : (requests log).length ≤ budgetOf (grantOf log)
  distinct : ((requests log).map workspaceAgentBrokerActionFingerprint).Nodup
  idsFresh : (requests log).Pairwise fun earlier later =>
    later.requestIdSource = .explicit → earlier.requestId ≠ later.requestId
  repairedOnce : repairs log ≤ 1
  confirmed : ∀ earlier request, earlier ++ [.invoked true request] <+: log →
    ∃ grant, grantOf log = some grant ∧ Confirmed setting grant earlier request

variable {setting : Setting}

theorem min_policyOf_maxActions (grant : Option QueueAutonomyGrant) :
    min workspaceAgentBrokerContinuationMaxActions
      (min ((policyOf grant).maxActions.getD workspaceAgentBrokerContinuationMaxActions)
        workspaceAgentBrokerContinuationMaxActions) = budgetOf grant := by
  cases grant with
  | none => rfl
  | some grant =>
    cases hmax : grant.maxActions with
    | none => simp [policyOf, createQueueAutonomyPolicy, budgetOf, hmax]
    | some maxActions =>
      simp only [policyOf, createQueueAutonomyPolicy, budgetOf, hmax, Option.map_some,
        Option.getD_some, Option.bind_some]
      omega

/-- A chain that starts. -/
theorem tracks_started {chainId : String} {queueAutonomyGrant : Json} {reasons : List String} :
    let state := createWorkspaceAgentBrokerContinuationState setting chainId queueAutonomyGrant
      reasons
    Tracks setting state [.started state.queueAutonomyGrant] := by
  intro state
  exact ⟨List.cons_ne_nil _ _, rfl, rfl, min_policyOf_maxActions _, rfl, Nat.zero_le _, rfl, rfl,
    rfl, rfl⟩

theorem orderly_started (grant : Option QueueAutonomyGrant) :
    Orderly setting [.started grant] := by
  refine ⟨Nat.zero_le _, List.nodup_nil, List.Pairwise.nil, Nat.zero_le _, ?_⟩
  intro earlier request h
  have hmem := h.subset (List.mem_append_right earlier (List.mem_singleton_self _))
  simp at hmem

/-! ## One step -/

section Step

variable {state : WorkspaceAgentBrokerContinuationState} {log : List ChainEvent}

/-- Nothing is cut off a list that the count leaves room for. -/
theorem sliceLast_eq_self {α : Type} {count : ℕ} {values : List α} (h : values.length ≤ count) :
    sliceLast count values = values := by
  unfold sliceLast
  split_ifs
  · rfl
  · rw [Nat.sub_eq_zero_of_le h, List.drop_zero]

/-- A request that is made is new and within the budget. -/
theorem attempt_ok {request : ActionRequest} {actionIndex : ℕ} {fingerprint : String}
    (h : evaluateWorkspaceAgentBrokerContinuationAttempt state request =
      .ok actionIndex fingerprint) :
    state.actionCount < state.maxActions ∧
      fingerprint = workspaceAgentBrokerActionFingerprint request ∧
      fingerprint ∉ state.seenRequestFingerprints ∧
      (request.requestIdSource = .explicit → request.requestId ∉ state.seenRequestIds) := by
  simp only [evaluateWorkspaceAgentBrokerContinuationAttempt] at h
  split_ifs at h with hbudget hid hseen
  obtain ⟨-, rfl⟩ := Attempt.ok.inj h
  refine ⟨Nat.lt_of_not_ge hbudget, rfl, hseen, fun hexplicit hmem => hid ⟨?_, hmem⟩⟩
  rw [hexplicit]
  decide

theorem Tracks.recorded {request : ActionRequest} {injected : Bool} {actionIndex : ℕ}
    {fingerprint : String} (h : Tracks setting state log)
    (hattempt : evaluateWorkspaceAgentBrokerContinuationAttempt state request =
      .ok actionIndex fingerprint) :
    Tracks setting (recordWorkspaceAgentBrokerContinuationAttempt state request fingerprint)
      (log ++ [.invoked injected request]) := by
  obtain ⟨hbudget, rfl, -, -⟩ := attempt_ok hattempt
  have hwithin := h.within
  rw [h.count] at hbudget
  have hgrant := grantOf_concat h.headed (.invoked injected request)
  refine ⟨by simp, h.grant.trans hgrant.symm, ?_, ?_, ?_, ?_, ?_, ?_, ?_, by
    simp [pendingOf, recordWorkspaceAgentBrokerContinuationAttempt]⟩
  · rw [hgrant]
    exact h.policy
  · rw [hgrant]
    exact h.budget
  · simp [recordWorkspaceAgentBrokerContinuationAttempt, h.count]
  · rwa [requests_invoked, List.length_append, List.length_singleton]
  · simp only [recordWorkspaceAgentBrokerContinuationAttempt, requests_invoked, List.map_append,
      List.map_singleton, h.fingerprints]
    refine sliceLast_eq_self ?_
    rwa [List.length_append, List.length_map, List.length_singleton]
  · simp only [recordWorkspaceAgentBrokerContinuationAttempt, requests_invoked, List.map_append,
      List.map_singleton, h.ids]
    refine sliceLast_eq_self ?_
    rwa [List.length_append, List.length_map, List.length_singleton]
  · rw [repairs_invoked]
    exact h.repair

theorem Tracks.repaired (h : Tracks setting state log)
    (hfirst : state.protocolRepairAttempted = false) :
    Tracks setting (recordWorkspaceAgentBrokerContinuationProtocolRepair state)
      (log ++ [.repaired]) := by
  have hgrant := grantOf_concat h.headed .repaired
  have hrepair := h.repair
  rw [hfirst] at hrepair
  refine ⟨by simp, h.grant.trans hgrant.symm, ?_, ?_, ?_, ?_, ?_, ?_, ?_, ?_⟩
  · rw [hgrant]
    exact h.policy
  · rw [hgrant]
    exact h.budget
  · rw [requests_repaired]
    exact h.count
  · rw [requests_repaired]
    exact h.within
  · rw [requests_repaired]
    exact h.fingerprints
  · rw [requests_repaired]
    exact h.ids
  · rw [repairs_repaired, hrepair]
    rfl
  · rw [List.reverse_append]
    exact h.pending

theorem Tracks.answered {output : Option Json} (h : Tracks setting state log) :
    Tracks setting
      (prepareWorkspaceAgentBrokerContinuationStateForResult setting state output)
      (log ++ [.answered output]) := by
  have hgrant := grantOf_concat h.headed (.answered output)
  refine ⟨by simp, h.grant.trans hgrant.symm, ?_, ?_, ?_, ?_, ?_, ?_, ?_, by
    simp [pendingOf, validNextAction, prepareWorkspaceAgentBrokerContinuationStateForResult]⟩
  · rw [hgrant]
    exact h.policy
  · rw [hgrant]
    exact h.budget
  · rw [requests_answered]
    exact h.count
  · rw [requests_answered]
    exact h.within
  · rw [requests_answered]
    exact h.fingerprints
  · rw [requests_answered]
    exact h.ids
  · rw [repairs_answered]
    exact h.repair

/-- A supplied confirmation is one that the grant allows, for the pending next action. -/
theorem confirmed_of_apply {base request : ActionRequest} (h : Tracks setting state log)
    (happly : applyWorkspaceAgentQueueAutonomyGrantToActionRequest state base = (true, request)) :
    ∃ grant, grantOf log = some grant ∧ Confirmed setting grant log request := by
  unfold applyWorkspaceAgentQueueAutonomyGrantToActionRequest at happly
  by_cases hskip : base.confirmationToken.any (· ≠ "") ∨
      state.queueAutonomyPolicy.confirmationToken ≠ some queueStartRunConfirmationToken ∨
      !state.pendingNextAction.any (actionRequestMatchesNextAction base)
  · rw [if_pos hskip] at happly
    cases happly
  · rw [if_neg hskip] at happly
    simp only [not_or, not_not, Bool.not_eq_true', Bool.not_eq_false] at hskip
    obtain ⟨-, htoken, hpending⟩ := hskip
    rw [h.policy] at htoken happly
    obtain ⟨action, haction, hmatches⟩ := (Option.any_eq_true _ _).1 hpending
    rw [h.pending] at haction
    split at happly
    · cases happly
    · rename_i contract hcontract
      by_cases hrequired : contract.confirmation.isRequired = true
      swap
      · rw [if_neg hrequired] at happly
        cases happly
      rw [if_pos hrequired] at happly
      split at happly
      · rename_i riskClass hdecision
        obtain ⟨-, rfl⟩ := Prod.mk.inj happly
        cases hgrant : grantOf log with
        | none =>
          rw [hgrant] at htoken
          cases htoken
        | some grant =>
          rw [hgrant] at htoken hdecision
          obtain ⟨before, output, turns, hlog, hturns, hvalid⟩ := answered_of_pendingOf haction
          exact ⟨grant, rfl, htoken, supplied_of_decide hcontract hdecision,
            ⟨contract, hcontract, (permits_of_decide hdecision).1⟩,
            ⟨before, output, turns, action, hlog, hturns, hvalid, hmatches⟩⟩
      · cases happly

theorem prefix_concat_cases {earlier : List ChainEvent} {event new : ChainEvent}
    (h : earlier ++ [event] <+: log ++ [new]) :
    (earlier = log ∧ event = new) ∨ earlier ++ [event] <+: log := by
  rcases List.prefix_concat_iff.1 h with heq | hbefore
  · obtain ⟨hearlier, hevent⟩ := List.append_inj' heq rfl
    exact Or.inl ⟨hearlier, List.singleton_inj.1 hevent⟩
  · exact Or.inr hbefore

/-- The confirmations after an event that supplies none. -/
theorem Orderly.confirmed_concat {event : ChainEvent} (h : Orderly setting log)
    (hheaded : log ≠ []) (hevent : ∀ request, event ≠ .invoked true request)
    {earlier : List ChainEvent} {request : ActionRequest}
    (hbefore : earlier ++ [.invoked true request] <+: log ++ [event]) :
    ∃ grant, grantOf (log ++ [event]) = some grant ∧
      Confirmed setting grant earlier request := by
  rw [grantOf_concat hheaded]
  rcases prefix_concat_cases hbefore with ⟨-, heq⟩ | hbefore
  · exact absurd heq.symm (hevent request)
  · exact h.confirmed earlier request hbefore

theorem Orderly.repaired (h : Orderly setting log) (hheaded : log ≠ []) (hzero : repairs log = 0) :
    Orderly setting (log ++ [.repaired]) := by
  refine ⟨?_, ?_, ?_, ?_, fun earlier request hbefore => ?_⟩
  · rw [requests_repaired, grantOf_concat hheaded]
    exact h.bounded
  · rw [requests_repaired]
    exact h.distinct
  · rw [requests_repaired]
    exact h.idsFresh
  · rw [repairs_repaired, hzero]
  · exact h.confirmed_concat hheaded (by simp) hbefore

theorem Orderly.answered {output : Option Json} (h : Orderly setting log) (hheaded : log ≠ []) :
    Orderly setting (log ++ [.answered output]) := by
  refine ⟨?_, ?_, ?_, ?_, fun earlier request hbefore => ?_⟩
  · rw [requests_answered, grantOf_concat hheaded]
    exact h.bounded
  · rw [requests_answered]
    exact h.distinct
  · rw [requests_answered]
    exact h.idsFresh
  · rw [repairs_answered]
    exact h.repairedOnce
  · exact h.confirmed_concat hheaded (by simp) hbefore

theorem Orderly.invoked {request : ActionRequest} {injected : Bool} {actionIndex : ℕ}
    {fingerprint : String} (h : Orderly setting log) (htracks : Tracks setting state log)
    (hattempt : evaluateWorkspaceAgentBrokerContinuationAttempt state request =
      .ok actionIndex fingerprint)
    (hconfirmed : injected = true →
      ∃ grant, grantOf log = some grant ∧ Confirmed setting grant log request) :
    Orderly setting (log ++ [.invoked injected request]) := by
  obtain ⟨hbudget, rfl, hnew, hid⟩ := attempt_ok hattempt
  rw [htracks.fingerprints] at hnew
  rw [htracks.ids] at hid
  rw [htracks.count, htracks.budget] at hbudget
  refine ⟨?_, ?_, ?_, ?_, fun earlier request' hbefore => ?_⟩
  · rw [requests_invoked, grantOf_concat htracks.headed, List.length_append, List.length_singleton]
    exact hbudget
  · rw [requests_invoked, List.map_append, List.map_singleton, List.nodup_append]
    refine ⟨h.distinct, List.nodup_singleton _, fun a ha b hb => ?_⟩
    rw [List.mem_singleton.1 hb]
    exact fun heq => hnew (heq ▸ ha)
  · rw [requests_invoked, List.pairwise_append]
    refine ⟨h.idsFresh, List.pairwise_singleton _ _, fun a ha b hb hexplicit heq => ?_⟩
    rw [List.mem_singleton.1 hb] at hexplicit heq
    exact hid hexplicit (List.mem_map.2 ⟨a, ha, heq⟩)
  · rw [repairs_invoked]
    exact h.repairedOnce
  · rw [grantOf_concat htracks.headed]
    rcases prefix_concat_cases hbefore with ⟨rfl, hevent⟩ | hbefore
    · obtain ⟨hinjected, rfl⟩ := ChainEvent.invoked.inj hevent
      exact hconfirmed hinjected.symm
    · exact h.confirmed earlier request' hbefore

/-- What is kept together with the events. -/
structure Kept (setting : Setting) (s : Session) : Prop where
  orderly : Orderly setting s.log
  tracked : ∀ state, s.chain = some state → Tracks setting state s.log

/-- The chain over, its events kept. -/
theorem kept_ended {s : Session} (h : Kept setting s) : Kept setting { s with chain := none } :=
  ⟨h.orderly, fun _ hstate => absurd hstate (by simp)⟩

theorem kept_started (chainId : String) (queueAutonomyGrant : Json) (reasons : List String) :
    Kept setting (Session.started setting chainId queueAutonomyGrant reasons) := by
  refine ⟨orderly_started _, fun state hstate => ?_⟩
  rw [← Option.some.inj hstate]
  exact tracks_started

/-- A request in the chain of a state: it ends the chain or becomes its last event. -/
theorem kept_requested (horderly : Orderly setting log) (htracks : Tracks setting state log)
    (input : AskedAction) : Kept setting (runActionRequest state log input) := by
  unfold runActionRequest
  generalize happly : applyWorkspaceAgentQueueAutonomyGrantToActionRequest state
    (baseActionRequest state input) = applied
  simp only
  split
  · exact ⟨horderly, fun _ hstate => absurd hstate (by simp)⟩
  · rename_i actionIndex fingerprint hattempt
    refine ⟨horderly.invoked htracks hattempt fun hinjected => ?_, fun next hnext => ?_⟩
    · exact confirmed_of_apply htracks (happly.trans (Prod.ext hinjected rfl))
    · rw [← Option.some.inj hnext]
      exact htracks.recorded hattempt

/-- **Every step keeps the events orderly.** -/
theorem kept_perform {s : Session} (h : Kept setting s) (op : Op) :
    Kept setting (s.perform setting op) := by
  cases op with
  | run chainId queueAutonomyGrant reasons => exact kept_started chainId queueAutonomyGrant reasons
  | clear => exact kept_ended h
  | request input =>
    rw [Session.perform, runActionRequestResult]
    cases hchain : s.chain with
    | some state => exact kept_requested h.orderly (h.tracked state hchain) input
    | none => exact kept_requested (orderly_started none) tracks_started input
  | unreadable continuationThreadId =>
    rw [Session.perform, runProtocolRepair]
    cases hchain : s.chain with
    | none => exact h
    | some state =>
      have htracks := h.tracked state hchain
      simp only
      split
      · rename_i hrepair
        have hfirst : state.protocolRepairAttempted = false := by simpa using hrepair.1
        have hzero := htracks.repair
        rw [hfirst] at hzero
        refine ⟨h.orderly.repaired htracks.headed hzero, fun next hnext => ?_⟩
        rw [← Option.some.inj hnext]
        exact htracks.repaired hfirst
      · exact kept_ended h
  | answer output goesOn =>
    cases hchain : s.chain with
    | none =>
      simp only [Session.perform, runBrokerActionResult, hchain]
      exact ⟨h.orderly, fun _ hstate => absurd hstate (by simp)⟩
    | some state =>
      have htracks := h.tracked state hchain
      simp only [Session.perform, runBrokerActionResult, hchain]
      cases goesOn with
      | false => exact ⟨h.orderly, fun _ hstate => absurd hstate (by simp)⟩
      | true =>
        refine ⟨h.orderly.answered htracks.headed, fun next hnext => ?_⟩
        rw [← Option.some.inj hnext]
        exact htracks.answered

end Step

/-! ## Every session -/

theorem orderly_after (setting : Setting) (history : List Op) :
    Orderly setting (after (Session.perform setting) {} history).log := by
  have hinitial : Kept setting {} := by
    refine ⟨⟨Nat.zero_le _, List.nodup_nil, List.Pairwise.nil, Nat.zero_le _, ?_⟩,
      fun _ hstate => absurd hstate (by simp)⟩
    intro earlier request h
    simp at h
  have hkept : Kept setting (after (Session.perform setting) {} history) :=
    @invariant_after_any _ _ _ (Kept setting) (fun _ op h => kept_perform h op) _ hinitial
      history
  exact hkept.orderly

/-- One request asks for what another one asks for: the capability, the dry run and the input, up
to the order of the members of its objects. -/
structure SameAction (a b : ActionRequest) : Prop where
  capabilityId : a.capabilityId = b.capabilityId
  dryRun : a.dryRun = b.dryRun
  input : Json.Reordered a.input b.input

theorem fingerprint_eq_of_sameAction {a b : ActionRequest} (h : SameAction a b) :
    workspaceAgentBrokerActionFingerprint a = workspaceAgentBrokerActionFingerprint b := by
  unfold workspaceAgentBrokerActionFingerprint workspaceAgentBrokerActionFingerprintFromParts
  rw [h.capabilityId, h.dryRun]
  exact Json.canonicalString_of_reordered
    (.member [("capabilityId", .str b.capabilityId), ("dryRun", .bool b.dryRun)] [] "input" h.input)

/-- **A chain makes a bounded number of requests, and none twice.** In every session, whatever the
provider puts out and whenever the broker answers: the requests of a chain are at most those that
its grant leaves, and never more than sixteen; no two of them ask for the same; one that carries an
id of its own does not carry the id of an earlier one; and the provider is asked at most once to
repair its output. -/
theorem requests_bounded_and_distinct (setting : Setting) (history : List Op) :
    let log := (after (Session.perform setting) {} history).log
    (requests log).length ≤ budgetOf (grantOf log) ∧ (requests log).length ≤ 16 ∧
      (requests log).Pairwise (fun a b => ¬ SameAction a b) ∧
      (requests log).Pairwise (fun a b => b.requestIdSource = .explicit →
        a.requestId ≠ b.requestId) ∧
      repairs log ≤ 1 := by
  intro log
  have h := orderly_after setting history
  refine ⟨h.bounded, h.bounded.trans (Nat.min_le_right _ _), ?_, h.idsFresh, h.repairedOnce⟩
  have hdistinct := List.pairwise_map.1 h.distinct
  exact hdistinct.imp fun hne hsame => hne (fingerprint_eq_of_sameAction hsame)

/-! ## Where a grant comes from -/

def Op.isRun : Op → Bool
  | .run _ _ _ => true
  | _ => false

/-- The last run that the operator started was started with this grant. -/
def Given (setting : Setting) (history : List Op) (grant : QueueAutonomyGrant) : Prop :=
  ∃ before chainId candidate reasons later,
    history = before ++ .run chainId candidate reasons :: later ∧
      (∀ op ∈ later, op.isRun = false) ∧
      normalizeWorkspaceAgentQueueAutonomyGrant setting.number candidate = some grant

/-- A log with a grant begins with the start of its chain. -/
theorem started_of_grantOf {log : List ChainEvent} {grant : QueueAutonomyGrant}
    (h : grantOf log = some grant) : log.head? = some (.started (some grant)) := by
  cases log with
  | nil => cases h
  | cons first rest =>
    cases first with
    | started g =>
      have hg : g = some grant := h
      rw [hg]
      rfl
    | _ => cases h

theorem grantOf_of_concat {log : List ChainEvent} {event : ChainEvent}
    {grant : QueueAutonomyGrant} (hevent : ∀ g, event ≠ .started g)
    (h : grantOf (log ++ [event]) = some grant) : grantOf log = some grant := by
  cases log with
  | nil =>
    cases event with
    | started g => exact absurd rfl (hevent g)
    | _ => cases h
  | cons first log => cases first <;> exact h

theorem grantOf_runActionRequest {state : WorkspaceAgentBrokerContinuationState}
    {log : List ChainEvent} {input : AskedAction} {grant : QueueAutonomyGrant}
    (h : grantOf (runActionRequest state log input).log = some grant) :
    grantOf log = some grant := by
  simp only [runActionRequest] at h
  split at h
  · exact h
  · exact grantOf_of_concat (by simp) h

/-- A step other than the start of a run gives no grant. -/
theorem grantOf_perform {s : Session} {op : Op} {grant : QueueAutonomyGrant}
    (hop : op.isRun = false)
    (h : grantOf (s.perform setting op).log = some grant) : grantOf s.log = some grant := by
  cases op with
  | run chainId candidate reasons => cases hop
  | clear => exact h
  | request input =>
    rw [Session.perform, runActionRequestResult] at h
    cases hchain : s.chain with
    | some state =>
      rw [hchain] at h
      exact grantOf_runActionRequest h
    | none =>
      rw [hchain] at h
      cases grantOf_runActionRequest h
  | unreadable continuationThreadId =>
    rw [Session.perform, runProtocolRepair] at h
    split at h
    · exact h
    · split at h
      · exact grantOf_of_concat (by simp) h
      · exact h
  | answer output goesOn =>
    simp only [Session.perform, runBrokerActionResult] at h
    split at h
    · exact grantOf_of_concat (by simp) h
    · exact h

/-- The grant of a chain is that of the last run. -/
theorem given_of_grantOf {history : List Op} {grant : QueueAutonomyGrant}
    (h : grantOf (after (Session.perform setting) {} history).log = some grant) :
    Given setting history grant := by
  induction history using List.reverseRecOn with
  | nil => cases h
  | append_singleton history op ih =>
    rw [after_concat] at h
    cases hop : op.isRun with
    | false =>
      obtain ⟨before, chainId, candidate, reasons, later, rfl, hlater, hread⟩ :=
        ih (grantOf_perform hop h)
      refine ⟨before, chainId, candidate, reasons, later ++ [op], by simp, ?_, hread⟩
      intro other hother
      rcases List.mem_append.1 hother with hother | hother
      · exact hlater other hother
      · rwa [List.mem_singleton.1 hother]
    | true =>
      cases op with
      | run chainId candidate reasons =>
        exact ⟨history, chainId, candidate, reasons, [], rfl,
          fun other hother => (List.not_mem_nil hother).elim, h⟩
      | _ => cases hop

/-- **A confirmation is supplied within the grant only.** In every session: a request whose
confirmation the app supplied is made in the chain of the last run that the operator started, and
this run was started with a grant. The grant carries the exact token, and its mode and its lists
of capabilities allow the request. Since the last request the agent went on from an answer, and
was at most asked to repair an output: the request has the capability and the input of the next
action that this answer named, and the next action passed its check. -/
theorem confirmations_granted (setting : Setting) {history : List Op} {earlier : List ChainEvent}
    {request : ActionRequest}
    (h : earlier ++ [.invoked true request] <+: (after (Session.perform setting) {} history).log) :
    ∃ grant, Given setting history grant ∧ earlier.head? = some (.started (some grant)) ∧
      grant.confirmationToken = some queueStartRunConfirmationToken ∧
      (∃ entry ∈ suppliedConfirmations,
        entry.1 = request.capabilityId ∧ grant.mode ∈ entry.2) ∧
      request.capabilityId ∉ grant.deniedCapabilities.getD [] ∧
      (∀ allowed, grant.allowedCapabilities = some allowed → request.capabilityId ∈ allowed) ∧
      ∃ before output turns action, earlier = before ++ .answered output :: turns ∧
        (∀ event ∈ turns, event = .repaired) ∧
        queueResultNextAction output = some action ∧
        validateHobitNextAction setting.tables action = true ∧
        actionRequestMatchesNextAction request action = true := by
  obtain ⟨grant, hgrant, hconfirmed⟩ := (orderly_after setting history).confirmed earlier request h
  obtain ⟨contract, -, hpermits⟩ := hconfirmed.permitted
  obtain ⟨before, output, turns, action, hearlier, hturns, hvalid, hmatches⟩ :=
    hconfirmed.answered
  obtain ⟨hnamed, hcheck⟩ := Option.filter_eq_some_iff.1 hvalid
  refine ⟨grant, given_of_grantOf hgrant, ?_, hconfirmed.token, hconfirmed.supplied, ?_, ?_,
    before, output, turns, action, hearlier, hturns, hnamed, hcheck, hmatches⟩
  · have hne : earlier ≠ [] := by
      rw [hearlier]
      exact List.append_ne_nil_of_right_ne_nil _ (List.cons_ne_nil _ _)
    rw [← started_of_grantOf hgrant]
    obtain ⟨first, rest, rfl⟩ := List.exists_cons_of_ne_nil hne
    obtain ⟨later, hlater⟩ := h
    rw [← hlater]
    rfl
  · have hdenied := hpermits.notDenied
    simpa [createQueueAutonomyPolicy, uniqueStrings] using hdenied
  · intro allowed hallowed
    have hlisted := hpermits.listed (uniqueStrings allowed) (by
      simp [createQueueAutonomyPolicy, hallowed])
    simpa [uniqueStrings] using hlisted

/-! ## A granted start -/

/-- Numerals are read as decimal numbers, and a start of a task is the one action known. -/
def smallSetting : Setting :=
  { number := fun numeral => (Json.natOfDigits numeral.toList).map fun n => (n : ℚ)
    tables :=
      { registry := [⟨"queue.item.startRun", some ⟨["executorWidgetId", "taskId"], ["taskId"]⟩⟩]
        moduleSurfaces :=
          [⟨"queue", [⟨"queue.item.startRun", true, "required", "run_start"⟩]⟩]
        queueFields := fun _ => ⟨false, [], [("executorWidgetId", "model_required"),
          ("taskId", "model_required")], [("taskId", true)]⟩ } }

def smokeGrant : Json :=
  .obj
    [("type", .str queueAutonomyGrantType), ("mode", .str "queue_smoke"),
      ("confirmationToken", .str queueStartRunConfirmationToken), ("maxActions", .num "4")]

/-- A request of the provider. -/
def asks (capabilityId : String) (input : Json) : Op :=
  .request
    { agentId := "workspace-agent:a", createdAt := "now", derivedChainId := "derived"
      envelope := ⟨capabilityId, none, false, input, none, none⟩ }

/-- The output that names the start of the task as the next action. -/
def listOutput : Json :=
  .obj
    [("nextAction", .obj
      [("autoContinuationSafe", .bool false), ("capabilityId", .str "queue.item.startRun"),
        ("confirmationRequired", .obj [("field", .str queueStartRunConfirmationField),
          ("value", .str queueStartRunConfirmationToken)]),
        ("input", .obj [("taskId", .str "task"), ("executorWidgetId", .str "executor")]),
        ("requiresConfirmation", .bool true)])]

/-- The agent lists the tasks and starts the one that the answer names. -/
def grantedStart : List Op :=
  [.run "chain" smokeGrant [], asks "queue.items.list" (.obj []), .answer (some listOutput) true,
    asks "queue.item.startRun"
      (.obj [("executorWidgetId", .str "executor"), ("taskId", .str "task")])]

def startRequest : ActionRequest :=
  { agentId := "workspace-agent:a", capabilityId := "queue.item.startRun"
    confirmationToken := some "operator-confirmed", createdAt := "now", dryRun := false
    input := .obj [("executorWidgetId", .str "executor"), ("taskId", .str "task")], reason := none
    rawRequestId := none, requestId := "chain:action-2:queue.item.startRun"
    requestIdSource := .derived }

/-- The start of the task is confirmed for the agent. -/
theorem confirmations_granted_grantedStart :
    let log := (after (Session.perform smallSetting) {} grantedStart).log
    ∃ earlier, earlier ++ [.invoked true startRequest] <+: log ∧
      ∃ grant, Given smallSetting grantedStart grant ∧
        ∃ before output turns action, earlier = before ++ .answered output :: turns ∧
          queueResultNextAction output = some action ∧
          actionRequestMatchesNextAction startRequest action = true := by
  intro log
  have hlast : log.getLast? = some (.invoked true startRequest) := by decide +kernel
  have hbefore : log.dropLast ++ [.invoked true startRequest] <+: log :=
    ⟨[], (List.append_nil _).trans (List.dropLast_append_getLast? _ hlast)⟩
  obtain ⟨grant, hgiven, -, -, -, -, -, before, output, turns, action, hearlier, -, hnamed, -,
    hmatches⟩ := confirmations_granted smallSetting hbefore
  exact ⟨log.dropLast, hbefore, grant, hgiven, before, output, turns, action, hearlier, hnamed,
    hmatches⟩

/-! ## The end of a grant -/

theorem exists_log_runActionRequest (state : WorkspaceAgentBrokerContinuationState)
    (log : List ChainEvent) (input : AskedAction) :
    ∃ more, (runActionRequest state log input).log = log ++ more := by
  simp only [runActionRequest]
  split
  · exact ⟨[], (List.append_nil log).symm⟩
  · exact ⟨_, rfl⟩

/-- When no chain is kept, a chain without a grant starts or nothing changes. -/
theorem perform_of_ended {s : Session} (hchain : s.chain = none) {op : Op}
    (hop : op.isRun = false) :
    s.perform setting op = s ∨ ∃ rest, (s.perform setting op).log = .started none :: rest := by
  obtain ⟨chain, log⟩ := s
  obtain rfl : chain = none := hchain
  cases op with
  | run chainId candidate reasons => cases hop
  | request input => exact Or.inr (exists_log_runActionRequest _ [.started none] input)
  | clear => exact Or.inl rfl
  | unreadable continuationThreadId => exact Or.inl rfl
  | answer output goesOn => exact Or.inl rfl

/-- A chain without a grant stays one, and what starts after it has no grant either. -/
theorem started_none_perform {s : Session} {rest : List ChainEvent}
    (hlog : s.log = .started none :: rest) {op : Op} (hop : op.isRun = false) :
    ∃ rest, (s.perform setting op).log = .started none :: rest := by
  cases op with
  | run chainId candidate reasons => cases hop
  | clear => exact ⟨rest, hlog⟩
  | request input =>
    rw [Session.perform, runActionRequestResult]
    cases hchain : s.chain with
    | none => exact exists_log_runActionRequest _ [.started none] input
    | some state =>
      obtain ⟨more, hmore⟩ := exists_log_runActionRequest state s.log input
      exact ⟨rest ++ more, by rw [hmore, hlog, List.cons_append]⟩
  | unreadable continuationThreadId =>
    rw [Session.perform, runProtocolRepair]
    split
    · exact ⟨rest, hlog⟩
    · split
      · exact ⟨rest ++ [.repaired], by rw [hlog, List.cons_append]⟩
      · exact ⟨rest, hlog⟩
  | answer output goesOn =>
    simp only [Session.perform, runBrokerActionResult]
    split
    · exact ⟨rest ++ [.answered output], by rw [hlog, List.cons_append]⟩
    · exact ⟨rest, hlog⟩

/-- **A grant ends with its chain.** Once the chain is over, no confirmation is supplied any more
until the operator starts a run, whatever the agent asks for and the broker answers. -/
theorem grant_ends_with_chain (setting : Setting) {history later : List Op}
    (hended : (after (Session.perform setting) {} history).chain = none)
    (hnorun : ∀ op ∈ later, op.isRun = false) (earlier : List ChainEvent)
    (request : ActionRequest)
    (h : earlier ++ [.invoked true request] <+:
      (after (Session.perform setting) {} (history ++ later)).log) :
    earlier ++ [.invoked true request] <+: (after (Session.perform setting) {} history).log := by
  have hlater : after (Session.perform setting) {} (history ++ later) =
        after (Session.perform setting) {} history ∨
      ∃ rest, (after (Session.perform setting) {} (history ++ later)).log =
        .started none :: rest := by
    clear h
    induction later using List.reverseRecOn with
    | nil =>
      rw [List.append_nil]
      exact Or.inl rfl
    | append_singleton later op ih =>
      have hop := hnorun op (List.mem_append_right _ (List.mem_singleton_self _))
      rw [← List.append_assoc, after_concat]
      rcases ih fun op hmem => hnorun op (List.mem_append_left _ hmem) with hsame | ⟨rest, hlog⟩
      · rw [hsame]
        exact perform_of_ended hended hop
      · exact Or.inr (started_none_perform hlog hop)
  rcases hlater with hsame | ⟨rest, hlog⟩
  · rwa [hsame] at h
  · obtain ⟨grant, hgrant, -⟩ :=
      (orderly_after setting (history ++ later)).confirmed earlier request h
    rw [hlog] at hgrant
    cases hgrant

/-- After the session was cleared, an answer leaves the start that was confirmed, and the same
request made again is not confirmed. -/
theorem grant_ends_with_chain_cleared :
    (∃ earlier, earlier ++ [.invoked true startRequest] <+:
        (after (Session.perform smallSetting) {} (grantedStart ++ [.clear])).log) ∧
      ¬ [.started none, .invoked true startRequest] <+:
        (after (Session.perform smallSetting) {} (grantedStart ++ [.clear] ++
          [.answer (some listOutput) true,
            asks "queue.item.startRun" startRequest.input])).log := by
  have hended : (after (Session.perform smallSetting) {} (grantedStart ++ [.clear])).chain = none :=
    by decide +kernel
  constructor
  · have hnorun : ∀ op ∈ [Op.answer (some listOutput) true], op.isRun = false := by
      simp [Op.isRun]
    generalize hlog : (after (Session.perform smallSetting) {}
      ((grantedStart ++ [.clear]) ++ [.answer (some listOutput) true])).log = log
    have hlast : log.getLast? = some (.invoked true startRequest) := by
      rw [← hlog]
      decide +kernel
    have hbefore : log.dropLast ++ [.invoked true startRequest] <+: log :=
      ⟨[], (List.append_nil _).trans (List.dropLast_append_getLast? _ hlast)⟩
    rw [← hlog] at hbefore
    exact ⟨_, grant_ends_with_chain smallSetting hended hnorun _ startRequest hbefore⟩
  · intro hasked
    have hnorun : ∀ op ∈ [Op.answer (some listOutput) true,
        asks "queue.item.startRun" startRequest.input], op.isRun = false := by
      simp [Op.isRun, asks]
    have hearlier := grant_ends_with_chain smallSetting hended hnorun [.started none] startRequest
      hasked
    revert hearlier
    decide +kernel

end HobitQueue.Agent
