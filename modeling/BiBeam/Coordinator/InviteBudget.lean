import BiBeam.Coordinator.InviteAdmission
import BiBeam.Lib.Allowance

namespace BiBeam

inductive LedgerOp
  | register (code : InviteCode) (startingBudget : UInt32)
  | debit (code : InviteCode)
  | redeem (trustedIssuer : IdentityPublicKey) (redactionKey : RedactionKey) (now : Timestamp)
      (signed : SignedInvite) (sourceIp : IpAddr)

inductive LedgerReply
  | registered
  | debited (remaining : UInt32)
  | redeemed (breadcrumb : RedemptionBreadcrumb)
deriving DecidableEq

namespace LedgerOp

def code : LedgerOp → InviteCode
  | register code _ => code
  | debit code => code
  | redeem _ _ _ signed _ => signed.code

/-- The call asks for a redemption of the code: a debit does, and a redeem
whose invite verifies. -/
def Asks (libs : AdmissionLibs) (code : InviteCode) : LedgerOp → Prop
  | register _ _ => False
  | debit known => known = code
  | redeem trustedIssuer _ now signed _ =>
    signed.code = code ∧ verifyInvite libs.toInviteLibs now signed trustedIssuer = .ok ()

theorem Asks.code_eq {libs : AdmissionLibs} {code : InviteCode} {op : LedgerOp} (asks : op.Asks libs code) :
    op.code = code := by
  cases op with
  | register => exact asks.elim
  | debit => exact asks
  | redeem => exact asks.1

def perform (libs : AdmissionLibs) (faults : LedgerFaults) (ledger : RedemptionLedger) :
    LedgerOp → Except InviteAdmissionError LedgerReply × RedemptionLedger
  | register code startingBudget =>
    let (result, ledger) := ledger.register libs faults code startingBudget
    (result.map fun _ => .registered, ledger)
  | debit code =>
    let (result, ledger) := ledger.debit libs faults code
    (result.map .debited, ledger)
  | redeem trustedIssuer redactionKey now signed sourceIp =>
    let admissioner : InviteAdmissioner := ⟨trustedIssuer, ledger, redactionKey⟩
    let (result, admissioner) := admissioner.redeem libs faults now signed sourceIp
    (result.map .redeemed, admissioner.ledger)

end LedgerOp

/-- The failures that redb reports inside a transaction. -/
def LedgerFaults.texts (faults : LedgerFaults) : List String :=
  [faults.beginWrite, faults.openTable, faults.get, faults.insert, faults.commit].reduceOption

/-- A call with the faults of its transaction and its answer. -/
structure LedgerCall where
  op : LedgerOp
  faults : LedgerFaults
  result : Except InviteAdmissionError LedgerReply

/-- What a call does to the budgets: it registers a code, debits one, finds
the budget of one exhausted, or fails before the ledger has answered. -/
def LedgerCall.event (call : LedgerCall) : Allowance.Event InviteCode :=
  match call.result, call.op with
  | .ok .registered, .register code startingBudget => .grant code startingBudget.toNat
  | .ok (.debited remaining), op => .drawn op.code remaining.toNat
  | .ok (.redeemed breadcrumb), op => .drawn op.code breadcrumb.remaining.toNat
  | .error .budgetExhausted, op => .refused op.code
  | _, _ => .silent

theorem LedgerCall.register_of_event {call : LedgerCall} {code : InviteCode} {amount : Nat}
    (granting : call.event = .grant code amount) :
    ∃ startingBudget, call.op = .register code startingBudget ∧ call.result = .ok .registered := by
  obtain ⟨op, faults, result⟩ := call
  cases result with
  | error failure => cases failure <;> cases granting
  | ok reply =>
    cases reply with
    | registered =>
      cases op with
      | register known startingBudget =>
        cases granting
        exact ⟨startingBudget, rfl, rfl⟩
      | debit | redeem => cases granting
    | debited | redeemed => cases granting

def LedgerStep (libs : AdmissionLibs) (ledger : RedemptionLedger) (call : LedgerCall) (after : RedemptionLedger) : Prop :=
  call.op.perform libs call.faults ledger = (call.result, after)

namespace RedemptionLedger

/-- What each code may still be redeemed for. -/
def allowance (libs : AdmissionLibs) (ledger : RedemptionLedger) (code : InviteCode) : Nat :=
  ((ledger.rows.lookup (inviteHashKey libs code)).map UInt32.toNat).getD 0

/-- What a debit can do. -/
inductive Debited (libs : AdmissionLibs) (faults : LedgerFaults) (ledger : RedemptionLedger) (code : InviteCode) :
    Except InviteAdmissionError UInt32 → RedemptionLedger → Prop
  | drawn {current} : ledger.rows.lookup (inviteHashKey libs code) = some current → current ≠ 0 →
      Debited libs faults ledger code (.ok (current.saturatingSub 1))
        ⟨ledger.rows.insert (inviteHashKey libs code) (current.saturatingSub 1)⟩
  | exhausted : ledger.allowance libs code = 0 → Debited libs faults ledger code (.error .budgetExhausted) ledger
  | failed {text} : text ∈ faults.texts → Debited libs faults ledger code (.error (.redb text)) ledger

variable {libs : AdmissionLibs} {ledger : RedemptionLedger} {code : InviteCode}

theorem debit_spec (faults : LedgerFaults) :
    Debited libs faults ledger code (ledger.debit libs faults code).1 (ledger.debit libs faults code).2 := by
  obtain ⟨beginWrite, openTable, get, insert, commit⟩ := faults
  cases beginWrite with
  | some text => exact .failed List.mem_cons_self
  | none =>
    cases openTable with
    | some text => exact .failed List.mem_cons_self
    | none =>
      cases get with
      | some text => exact .failed List.mem_cons_self
      | none =>
        unfold debit debitUnderWriteTxn
        dsimp only [ledgerTry, bind, Except.bind]
        cases atKey : ledger.rows.lookup (inviteHashKey libs code) with
        | none => exact .exhausted (by rw [allowance, atKey]; rfl)
        | some current =>
          by_cases spent : current = 0
          · dsimp only
            rw [if_pos spent]
            exact .exhausted (by rw [allowance, atKey, spent]; rfl)
          · dsimp only
            rw [if_neg spent]
            cases insert with
            | some text => exact .failed List.mem_cons_self
            | none =>
              cases commit with
              | some text => exact .failed List.mem_cons_self
              | none => exact .drawn atKey spent

theorem register_spec (faults : LedgerFaults) (startingBudget : UInt32) :
    ledger.register libs faults code startingBudget =
        (.ok (), ⟨ledger.rows.insert (inviteHashKey libs code) startingBudget⟩) ∨
      ∃ text, ledger.register libs faults code startingBudget = (.error (.redb text), ledger) := by
  obtain ⟨beginWrite, openTable, get, insert, commit⟩ := faults
  cases beginWrite with
  | some text => exact Or.inr ⟨text, rfl⟩
  | none =>
    cases openTable with
    | some text => exact Or.inr ⟨text, rfl⟩
    | none =>
      cases insert with
      | some text => exact Or.inr ⟨text, rfl⟩
      | none =>
        cases commit with
        | some text => exact Or.inr ⟨text, rfl⟩
        | none => exact Or.inl rfl

/-- What a redemption can do: nothing before the invite verifies, and then a debit. -/
theorem redeem_spec (faults : LedgerFaults) (now : Timestamp) (admissioner : InviteAdmissioner) (signed : SignedInvite)
    (sourceIp : IpAddr) :
    (∃ err, verifyInvite libs.toInviteLibs now signed admissioner.trustedIssuer = .error err ∧
        admissioner.redeem libs faults now signed sourceIp = (.error (.verify err), admissioner)) ∨
      ∃ result after, Debited libs faults admissioner.ledger signed.code result after ∧
        admissioner.redeem libs faults now signed sourceIp =
          (result.map fun remaining => ⟨admissioner.computeAuditBreadcrumb libs signed.code sourceIp, remaining⟩,
            { admissioner with ledger := after }) := by
  unfold InviteAdmissioner.redeem
  cases verifyInvite libs.toInviteLibs now signed admissioner.trustedIssuer with
  | error err => exact Or.inl ⟨err, rfl, rfl⟩
  | ok =>
    refine Or.inr ⟨_, _, debit_spec faults, ?_⟩
    dsimp only
    split
    · rename_i err after run
      rw [run]
      rfl
    · rename_i remaining after run
      rw [run]
      rfl

theorem allowance_insert (apart : Function.Injective (inviteHashKey libs)) (budget : UInt32) :
    RedemptionLedger.allowance libs ⟨ledger.rows.insert (inviteHashKey libs code) budget⟩ =
      Function.update (ledger.allowance libs) code budget.toNat := by
  funext other
  by_cases same : other = code
  · subst same
    rw [Function.update_self, allowance, AList.lookup_insert]
    rfl
  · rw [Function.update_of_ne same, allowance, AList.lookup_insert_ne fun clash => same (apart clash)]
    rfl

end RedemptionLedger

/-- What a call can leave behind. -/
inductive LedgerEffect (libs : AdmissionLibs) (ledger : RedemptionLedger) (call : LedgerCall) : RedemptionLedger → Prop
  | registered {budget reply} : call.result = .ok reply → call.event = .grant call.op.code budget.toNat →
      LedgerEffect libs ledger call ⟨ledger.rows.insert (inviteHashKey libs call.op.code) budget⟩
  | drawn {current reply} : call.result = .ok reply →
      ledger.rows.lookup (inviteHashKey libs call.op.code) = some current → current ≠ 0 →
      call.event = .drawn call.op.code (current.saturatingSub 1).toNat →
      LedgerEffect libs ledger call ⟨ledger.rows.insert (inviteHashKey libs call.op.code) (current.saturatingSub 1)⟩
  | refused : ledger.allowance libs call.op.code = 0 → call.event = .refused call.op.code →
      LedgerEffect libs ledger call ledger
  | failed : call.event = .silent →
      (∀ code, call.op.Asks libs code → ∃ text ∈ call.faults.texts, call.result = .error (.redb text)) →
      LedgerEffect libs ledger call ledger

variable {libs : AdmissionLibs} {ledger after : RedemptionLedger} {call : LedgerCall}

/-- A debit has the same effect whichever call makes it. -/
theorem RedemptionLedger.Debited.effect {result : Except InviteAdmissionError UInt32}
    {reply : UInt32 → LedgerReply} (debited : Debited libs call.faults ledger call.op.code result after)
    (answer : call.result = result.map reply)
    (told : ∀ remaining, call.result = .ok (reply remaining) → call.event = .drawn call.op.code remaining.toNat) :
    LedgerEffect libs ledger call after := by
  cases debited with
  | drawn atKey some => exact .drawn answer atKey some (told _ answer)
  | exhausted empty => exact .refused empty (by rw [LedgerCall.event, answer]; rfl)
  | failed reported => exact .failed (by rw [LedgerCall.event, answer]; rfl) fun _ _ => ⟨_, reported, answer⟩

theorem LedgerStep.effect (stepped : LedgerStep libs ledger call after) : LedgerEffect libs ledger call after := by
  obtain ⟨op, faults, result⟩ := call
  cases op with
  | register code startingBudget =>
    unfold LedgerStep LedgerOp.perform at stepped
    dsimp only at stepped
    obtain run | ⟨text, run⟩ := @RedemptionLedger.register_spec libs ledger code faults startingBudget
    · rw [run] at stepped
      cases stepped
      exact .registered rfl rfl
    · rw [run] at stepped
      cases stepped
      exact .failed rfl fun _ asks => asks.elim
  | debit code =>
    obtain ⟨answer, rfl⟩ := Prod.mk.inj stepped
    have debited : RedemptionLedger.Debited libs faults ledger code _ _ := RedemptionLedger.debit_spec faults
    refine @RedemptionLedger.Debited.effect _ _ _ ⟨.debit code, faults, result⟩ _ _ debited answer.symm
      fun remaining told => ?_
    rw [LedgerCall.event, told]
  | redeem trustedIssuer redactionKey now signed sourceIp =>
    unfold LedgerStep LedgerOp.perform at stepped
    dsimp only at stepped
    obtain ⟨err, refused, run⟩ | ⟨answer, left, debited, run⟩ :=
      @RedemptionLedger.redeem_spec libs faults now ⟨trustedIssuer, ledger, redactionKey⟩ signed sourceIp
    · rw [run] at stepped
      cases stepped
      exact .failed rfl fun _ asks => nomatch refused.symm.trans asks.2
    · rw [run] at stepped
      obtain ⟨same, rfl⟩ := Prod.mk.inj stepped
      let tag := (InviteAdmissioner.mk trustedIssuer ledger redactionKey).computeAuditBreadcrumb libs signed.code sourceIp
      let call : LedgerCall := ⟨.redeem trustedIssuer redactionKey now signed sourceIp, faults, result⟩
      refine @RedemptionLedger.Debited.effect _ _ _ call _ (fun remaining => .redeemed ⟨tag, remaining⟩) debited ?_
        fun remaining told => ?_
      · refine same.symm.trans ?_
        cases answer <;> rfl
      · rw [LedgerCall.event, told]

/-- A call on the ledger is a step of the allowances. -/
theorem LedgerStep.allowance (apart : Function.Injective (inviteHashKey libs)) (stepped : LedgerStep libs ledger call after) :
    Allowance.Step (ledger.allowance libs) call.event (after.allowance libs) := by
  cases stepped.effect with
  | registered _ event =>
    rw [event, RedemptionLedger.allowance_insert apart]
    exact .grant
  | @drawn current _ _ atKey some event =>
    rw [event, RedemptionLedger.allowance_insert apart]
    refine .drawn ?_
    have positive : current.toNat ≠ 0 := fun zero => some (UInt32.toNat_inj.mp zero)
    rw [RedemptionLedger.allowance, atKey, UInt32.toNat_saturatingSub]
    change current.toNat = current.toNat - 1 + 1
    omega
  | refused empty event =>
    rw [event]
    exact .refused empty
  | failed event =>
    rw [event]
    exact .silent

theorem LedgerStep.eq_of_error (stepped : LedgerStep libs ledger call after) {err : InviteAdmissionError}
    (failed : call.result = .error err) : after = ledger := by
  cases stepped.effect with
  | registered answer => cases failed.symm.trans answer
  | drawn answer => cases failed.symm.trans answer
  | refused => rfl
  | failed => rfl

theorem LedgerStep.lookup_other (apart : Function.Injective (inviteHashKey libs))
    (stepped : LedgerStep libs ledger call after) {code : InviteCode} (other : code ≠ call.op.code) :
    after.rows.lookup (inviteHashKey libs code) = ledger.rows.lookup (inviteHashKey libs code) := by
  have differ : inviteHashKey libs code ≠ inviteHashKey libs call.op.code := fun clash => other (apart clash)
  cases stepped.effect with
  | registered => exact AList.lookup_insert_ne differ
  | drawn => exact AList.lookup_insert_ne differ
  | refused => rfl
  | failed => rfl

/-- A run of the ledger is a run of the allowances. -/
theorem LedgerStep.allowance_run {calls : List LedgerCall} (apart : Function.Injective (inviteHashKey libs))
    (run : Reach (LedgerStep libs) ledger calls after) :
    Reach Allowance.Step (ledger.allowance libs) (calls.map LedgerCall.event) (after.allowance libs) := by
  have matched : ∀ s call t s', s' = RedemptionLedger.allowance libs s → LedgerStep libs s call t →
      ∃ t', t' = RedemptionLedger.allowance libs t ∧ Reach Allowance.Step s' [call.event] t' := by
    rintro s call t s' rfl stepped
    exact ⟨_, rfl, Reach.single (stepped.allowance apart)⟩
  obtain ⟨left, rfl, reached⟩ := run.simulate (R := fun s s' => s' = RedemptionLedger.allowance libs s) rfl matched
  rwa [← List.map_eq_flatMap] at reached

/-- The remaining counts that the successful debits of a code returned, oldest first. -/
def remainingCounts (code : InviteCode) (calls : List LedgerCall) : List Nat :=
  Allowance.draws code (calls.map LedgerCall.event)

/-- How often a debit of a code reached the ledger, which answered with a
count or that nothing was left. -/
def ledgerAttempts (code : InviteCode) (calls : List LedgerCall) : Nat :=
  Allowance.asked code (calls.map LedgerCall.event)

/-- What asks for a redemption is answered by the ledger unless redb fails it. -/
theorem LedgerStep.attempt (stepped : LedgerStep libs ledger call after) {code : InviteCode}
    (asks : call.op.Asks libs code) :
    ledgerAttempts code [call] = 1 ∨ ∃ text ∈ call.faults.texts, call.result = .error (.redb text) := by
  have counted (event : Allowance.Event InviteCode) (same : call.event = event) (mine : event.asks code = true) :
      ledgerAttempts code [call] = 1 := by
    rw [ledgerAttempts, List.map_singleton, same]
    exact List.countP_singleton.trans (if_pos mine)
  cases stepped.effect with
  | registered _ event =>
    obtain ⟨startingBudget, isRegister, _⟩ := LedgerCall.register_of_event event
    rw [isRegister] at asks
    exact asks.elim
  | drawn _ _ _ event => exact Or.inl (counted _ event (decide_eq_true asks.code_eq))
  | refused _ event => exact Or.inl (counted _ event (decide_eq_true asks.code_eq))
  | failed _ reported => exact Or.inr (reported code asks)

/-- In every run, from one registration of a code on and as long as it is not
registered anew, debits succeed until the budget is used up, each returning
one less; a failed call changes nothing, and no call another code's budget. A
debit, or a redeem whose invite verifies, is an attempt unless redb fails it. -/
theorem redemptions_eq_budget (libs : AdmissionLibs) (apart : Function.Injective (inviteHashKey libs)) :
    (∀ ledger after calls, Reach (LedgerStep libs) ledger calls after →
      ∀ earlier registration between later code budget, calls = earlier ++ registration :: (between ++ later) →
      registration.op = .register code budget → registration.result = .ok .registered →
      (∀ call ∈ between, ∀ amount, call.op = .register code amount → call.result ≠ .ok .registered) →
      (remainingCounts code between).length = min (ledgerAttempts code between) budget.toNat ∧
        remainingCounts code between =
          (List.range (min (ledgerAttempts code between) budget.toNat)).map (budget.toNat - 1 - ·)) ∧
    (∀ ledger call after, LedgerStep libs ledger call after →
      (∀ err, call.result = .error err → after = ledger) ∧
      (∀ fault code, code ≠ call.op.code → after.get libs fault code = ledger.get libs fault code) ∧
      ∀ code, call.op.Asks libs code →
        ledgerAttempts code [call] = 1 ∨ ∃ text ∈ call.faults.texts, call.result = .error (.redb text)) := by
  constructor
  · intro ledger after calls run earlier registration between later code budget whole isRegister registered alone
    rw [whole] at run
    obtain ⟨before, _, run⟩ := run.split
    obtain ⟨granted, first, run⟩ := run.uncons
    obtain ⟨last, run, _⟩ := run.split
    have event : registration.event = .grant code budget.toNat := by rw [LedgerCall.event, isRegister, registered]
    have start := first.allowance apart
    rw [event] at start
    have full : granted.allowance libs code = budget.toNat := start.granted
    have ungranted : Allowance.Ungranted code (between.map LedgerCall.event) := by
      intro amount member
      obtain ⟨call, inside, granting⟩ := List.mem_map.mp member
      obtain ⟨startingBudget, again, answered⟩ := LedgerCall.register_of_event granting
      exact alone call inside startingBudget again answered
    have countdown := (Allowance.draws_eq_countdown (LedgerStep.allowance_run apart run) ungranted).1
    rw [full] at countdown
    refine ⟨?_, countdown⟩
    rw [remainingCounts, countdown, List.length_map, List.length_range]
    rfl
  · intro ledger call after stepped
    refine ⟨fun err failed => stepped.eq_of_error failed, fun fault code other => ?_, fun _ asks => stepped.attempt asks⟩
    rw [RedemptionLedger.get, RedemptionLedger.get, stepped.lookup_other apart other]

section OneRedemption

/-- A hash that keeps the code behind the domain. -/
def codeHash (input : List UInt8) : Vector UInt8 32 :=
  Vector.ofFn fun i => (input.drop 33).getD i 0

def sevens : InviteCode := ⟨Vector.replicate 16 7⟩

/-- An invite that never expires. -/
def sevensInvite : SignedInvite :=
  ⟨sevens, ⟨Vector.replicate 32 1⟩, .unixEpoch, none, List.replicate 64 0⟩

def codeLibs : AdmissionLibs where
  verifies key message signature := decide (key = sevensInvite.issuer ∧
    message = signingPayload unixEpochText sevens .unixEpoch none ∧ signature = ⟨Vector.replicate 64 0⟩)
  rfc3339 := unixEpochText
  debugTimestamp _ := "Timestamp(1970-01-01 0:00:00.0 +00:00:00)"
  blake3 := codeHash
  keyedHash _ := codeHash
  ipText _ := "203.0.113.4"

theorem codeLibs_apart : Function.Injective (inviteHashKey codeLibs) := by
  intro left right same
  have kept : ∀ code : InviteCode, (inviteHashDomain.toUTF8.data.toList ++ code.bytes.toList).drop 33 = code.bytes.toList :=
    fun code => List.drop_left' rfl
  obtain ⟨left⟩ := left
  obtain ⟨right⟩ := right
  congr 1
  apply Vector.ext
  intro i small
  have here := congrArg (fun digest : Vector UInt8 32 => digest[i]) same
  simp only [inviteHashKey, codeLibs, codeHash, Vector.getElem_ofFn, kept] at here
  simpa [small] using here

def quiet : LedgerFaults := ⟨none, none, none, none, none⟩

def sevensRedeem : LedgerOp :=
  .redeem sevensInvite.issuer ⟨Vector.replicate 32 0⟩ 1 sevensInvite (.v4 0xCB007104)

/-- What that redeem is answered: nothing is left. -/
def sevensBreadcrumb : RedemptionBreadcrumb :=
  ⟨(InviteAdmissioner.mk sevensInvite.issuer ⟨∅⟩ ⟨Vector.replicate 32 0⟩).computeAuditBreadcrumb codeLibs sevens
    (.v4 0xCB007104), 0⟩

/-- A code registered for one redemption, redeemed, and debited once more. -/
def oneRedemption : List LedgerCall :=
  [⟨.register sevens 1, quiet, .ok .registered⟩, ⟨sevensRedeem, quiet, .ok (.redeemed sevensBreadcrumb)⟩,
    ⟨.debit sevens, quiet, .error .budgetExhausted⟩]

def sevensLedger : RedemptionLedger := ⟨AList.insert (inviteHashKey codeLibs sevens) 1 ∅⟩

def sevensSpent : RedemptionLedger := ⟨sevensLedger.rows.insert (inviteHashKey codeLibs sevens) 0⟩

theorem oneRedemption_reached : Reach (LedgerStep codeLibs) ⟨∅⟩ oneRedemption sevensSpent := by
  have registers : LedgerStep codeLibs ⟨∅⟩ ⟨.register sevens 1, quiet, .ok .registered⟩ sevensLedger := rfl
  have redeems : LedgerStep codeLibs sevensLedger ⟨sevensRedeem, quiet, .ok (.redeemed sevensBreadcrumb)⟩
      sevensSpent := rfl
  have refuses : LedgerStep codeLibs sevensSpent ⟨.debit sevens, quiet, .error .budgetExhausted⟩ sevensSpent := rfl
  exact ((Reach.start.next registers).next redeems).next refuses

theorem redemptions_eq_budget_oneRedemption : remainingCounts sevens (oneRedemption.drop 1) = [0] :=
  ((redemptions_eq_budget codeLibs codeLibs_apart).1 _ _ _ oneRedemption_reached [] _ (oneRedemption.drop 1) [] sevens 1
    rfl rfl rfl (by simp [oneRedemption])).2

end OneRedemption

end BiBeam
