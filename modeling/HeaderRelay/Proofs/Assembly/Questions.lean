import HeaderRelay.Assembly
import HeaderRelay.Proofs.BlockStore.Answers
import HeaderRelay.Proofs.Provider.Retry

/-!
# The questions of an assembly

A store knows what it does not have, so none of its failures passes when a question is
repeated, and an assembly asks each of its five questions at most once.  Each answer is
that of the store at its time.  So the result is a function of five stores, of which
this module says when it is a proof and which one.
-/

namespace HeaderRelay

/-! ## Lasting failures -/

namespace Retry

variable {α β : Type}

theorem Lasting.bind {answer : Except ProviderError α} {next : α → Except ProviderError β}
    (first : Lasting answer) (second : ∀ value, Lasting (next value)) :
    Lasting (answer >>= next) := by
  intro error failed
  rcases Checks.bind_eq_error_iff.mp failed with here | ⟨value, _, later⟩
  · exact first error here
  · exact second value error later

variable {m : Type → Type} [Monad m] [LawfulMonad m] {State : Type} {look : m State}
variable {first : State → Except ProviderError α} {second : State → Except ProviderError β}

theorem call_of_lasting (lasting : ∀ state, Lasting (first state)) (delays : List Nat) :
    call (do return first (← look)) delays = do return first (← look) := by
  cases delays with
  | nil => rfl
  | cons delay rest =>
      simp only [call, callWhile, bind_assoc, pure_bind]
      apply bind_congr
      intro state
      cases answered : first state with
      | ok value => rfl
      | error error => simp [lasting state error answered]

/-- Calls that never have to wait are made one after the other. -/
theorem inStep_of_lasting (firstLasting : ∀ state, Lasting (first state))
    (secondLasting : ∀ state, Lasting (second state)) (delays : List Nat) :
    inStep (do return first (← look)) (do return second (← look)) delays =
      inTurn (do return first (← look)) (do return second (← look)) delays := by
  cases delays with
  | nil => rfl
  | cons delay rest =>
      simp only [inStep, inTurn, call_of_lasting firstLasting, call_of_lasting secondLasting,
        bind_assoc, pure_bind]
      apply bind_congr
      intro state
      cases answered : first state with
      | ok value => rfl
      | error error => simp [firstLasting state error answered]

/-- Two questions at once are two questions in a row, of which the second is asked only if
the first has an answer. -/
theorem both_of_lasting (firstLasting : ∀ state, Lasting (first state))
    (secondLasting : ∀ state, Lasting (second state)) (delays : List Nat) :
    ExceptT.mk (both (do return first (← look)) (do return second (← look)) delays) = do
      let left ← ExceptT.mk (do return first (← look))
      let right ← ExceptT.mk (do return second (← look))
      return (left, right) := by
  rw [both, inStep_of_lasting firstLasting secondLasting, ite_self]
  apply ExceptT.ext
  simp only [inTurn, call_of_lasting firstLasting, call_of_lasting secondLasting, bind_assoc,
    pure_bind, ExceptT.run_mk, ExceptT.run_bind, ExceptT.run_pure]
  apply bind_congr
  intro state
  cases first state with
  | error error => rfl
  | ok left =>
      apply bind_congr
      intro state
      cases second state <;> rfl

end Retry

namespace BlockStore

open Retry

variable {txid : Hash} {height start : Height} {count : UInt32} (store : BlockStore)

theorem lasting_latestHeight : Lasting store.latestHeight := by
  unfold latestHeight
  split
  · exact lasting_ok _
  · exact lasting_error rfl

theorem lasting_indexed : Lasting (store.indexed txid) := by
  unfold indexed
  split
  · exact lasting_ok _
  · exact lasting_error rfl

theorem lasting_transaction : Lasting (store.transaction txid) := by
  have mapped : store.transaction txid = store.indexed txid >>= fun found => .ok found.1 := rfl
  rw [mapped]
  exact store.lasting_indexed.bind fun _ => lasting_ok _

theorem lasting_confirmations : Lasting (store.confirmations txid) :=
  store.lasting_indexed.bind fun _ => store.lasting_latestHeight.bind fun _ => lasting_ok _

theorem lasting_block : Lasting (store.block height) := by
  unfold block
  split
  · exact lasting_ok _
  · exact lasting_error rfl

theorem lasting_headersFrom (offset count : Nat) :
    Lasting (store.headersFrom start offset count) := by
  induction count generalizing offset with
  | zero => exact lasting_ok _
  | succ count ih =>
      rw [headersFrom]
      split
      · exact lasting_error rfl
      · exact store.lasting_block.bind fun _ => (ih _).bind fun _ => lasting_ok _

theorem lasting_headers : Lasting (store.headers start count) :=
  store.lasting_headersFrom 0 count.toNat

theorem lasting_branch : Lasting (store.branch txid height) := by
  refine store.lasting_block.bind fun block => ?_
  dsimp only
  split
  · exact lasting_error rfl
  · exact lasting_ok _

end BlockStore

/-! ## Five questions -/

/-- Hashes that are told in display order are turned back. -/
theorem Hash.map_reverse_reverse (hashes : List Hash) :
    (hashes.map Hash.reverse).map Hash.reverse = hashes := by
  simp [List.map_map, Function.comp_def]

namespace AssembledProof

theorem ofParts_eq_ok_iff {txid : Hash} {transaction : Transaction} {height : Height}
    {headers : Bytes} {reported : ReportedBranch} {assembled : AssembledProof} :
    ofParts txid transaction height headers reported = .ok assembled ↔
      reported.height = height ∧
        ⟨transaction, txid, Proof.encodeBranch (reported.siblings.map Hash.reverse),
          reported.position, headers⟩ = assembled := by
  unfold ofParts
  split <;> simp_all

/-- Five questions are asked one after the other, each of them once. -/
theorem assemble_provider {m : Type → Type} [Monad m] [LawfulMonad m] (look : m BlockStore)
    (delays : List Nat) (required : UInt32) (txid : Hash) :
    assemble (BlockStore.provider look) delays required txid = ExceptT.run (m := m) (do
      let transaction ← ExceptT.mk (do return (← look).transaction txid)
      let confirmations ← ExceptT.mk (do return (← look).confirmations txid)
      if confirmations < required then
        throw (.insufficientConfirmations required confirmations)
      let tip ← ExceptT.mk (do return (← look).latestHeight)
      let height ← ExceptT.mk (pure (blockHeight txid confirmations tip))
      let headers ← ExceptT.mk (do return (← look).headers height required)
      let branch ← ExceptT.mk (do return (← look).branch txid height)
      ExceptT.mk (pure (ofParts txid transaction height headers branch))) := by
  simp only [assemble, BlockStore.provider, Retry.call_of_lasting BlockStore.lasting_latestHeight,
    Retry.call_of_lasting BlockStore.lasting_transaction,
    Retry.call_of_lasting BlockStore.lasting_confirmations,
    Retry.both_of_lasting BlockStore.lasting_headers BlockStore.lasting_branch, bind_assoc,
    pure_bind]

variable {State α β : Type} {look : StateM State BlockStore} {state last : State} {result : β}
variable {next : α → ExceptT ProviderError (StateM State) β}

/-- A question has the answer of the store at its time. -/
theorem ask_eq_ok_iff {answer : BlockStore → Except ProviderError α} :
    ExceptT.run (ExceptT.mk (do return answer (← look)) >>= next) state = (.ok result, last) ↔
      ∃ value, answer (look state).1 = .ok value ∧
        (next value).run (look state).2 = (.ok result, last) := by
  rw [ExceptT.run_bind, ExceptT.run_mk, bind_assoc]
  simp only [pure_bind]
  simp only [bind, StateT.bind]
  generalize look state = looked
  obtain ⟨store, rest⟩ := looked
  dsimp only
  cases answer store with
  | ok value => simp
  | error error => exact ⟨nofun, nofun⟩

theorem settle_eq_ok_iff {settled : Except ProviderError α} :
    ExceptT.run (ExceptT.mk (pure settled) >>= next) state = (.ok result, last) ↔
      ∃ value, settled = .ok value ∧ (next value).run state = (.ok result, last) := by
  rw [ExceptT.run_bind, ExceptT.run_mk, pure_bind]
  cases settled with
  | ok value => simp
  | error error => exact ⟨nofun, nofun⟩

theorem refuse_eq_ok_iff {condition : Prop} [Decidable condition] {error : ProviderError}
    {others : Unit → ExceptT ProviderError (StateM State) β} :
    ExceptT.run (if condition then throw error >>= others else others ()) state =
        (.ok result, last) ↔
      ¬condition ∧ (others ()).run state = (.ok result, last) := by
  by_cases holds : condition
  · simp only [holds, if_true, not_true_eq_false, false_and, iff_false]
    exact nofun
  · simp [holds]

theorem told_eq_ok_iff {told : Except ProviderError β} :
    ExceptT.run (m := StateM State) (ExceptT.mk (pure told)) state = (.ok result, last) ↔
      told = .ok result ∧ state = last :=
  Prod.ext_iff

/-- An assembly over a store that may be another one at each look. -/
theorem assemble_eq_ok_iff {delays : List Nat} {required : UInt32} {txid : Hash}
    {assembled : AssembledProof} :
    assemble (BlockStore.provider look) delays required txid state = (.ok assembled, last) ↔
      ∃ transaction confirmations tip height headers branch,
        let first := look state
        let second := look first.2
        let third := look second.2
        let fourth := look third.2
        let fifth := look fourth.2
        first.1.transaction txid = .ok transaction ∧
          second.1.confirmations txid = .ok confirmations ∧ ¬confirmations < required ∧
          third.1.latestHeight = .ok tip ∧ blockHeight txid confirmations tip = .ok height ∧
          fourth.1.headers height required = .ok headers ∧
          fifth.1.branch txid height = .ok branch ∧
          ofParts txid transaction height headers branch = .ok assembled ∧ fifth.2 = last := by
  rw [assemble_provider]
  simp only [ask_eq_ok_iff, settle_eq_ok_iff, refuse_eq_ok_iff, told_eq_ok_iff, exists_and_left]

end AssembledProof

end HeaderRelay
