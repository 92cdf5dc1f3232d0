import FleetWiseEdge.Consumer.Impl.ConsumerThreads
import FleetWiseEdge.Consumer.Impl.VehicleDataSourceBinder

namespace DataInspection

open DataManagement Machine

namespace ConsumerThreads

variable {Dictionary Frame : Type} {threads : ConsumerThreads Dictionary Frame}

def consumer (threads : ConsumerThreads Dictionary Frame) (protocol : VehicleDataSourceProtocol)
    : CANDataConsumer Dictionary where
  mDataSourceProtocol := protocol
  isAlive := threads.mThread.isSome && !threads.mDone
  mShouldSleep := threads.mShouldSleep
  mDecoderDictionaryConstPtr := threads.mDecoderDictionaryConstPtr

theorem run_call {call : ConsumerCall Dictionary} (hcalls : threads.calls = [call])
    (actions : List (ConsumerAction Dictionary Frame))
    : (run step threads (.call 0 :: actions)).1
        =
      (run step { (threads.advance call).1 with calls := (threads.advance call).2.1.toList }
        actions).1 := by
  have hstep : (threads.step (.call 0)).1
      = { (threads.advance call).1 with calls := (threads.advance call).2.1.toList } := by
    unfold step callStep
    dsimp only
    rw [hcalls]
    dsimp only [List.getElem?_cons_zero]
    rw [advance_calls, hcalls]
    cases hrest : (threads.advance call).2.1 with
    | none => rfl
    | some rest => rfl
  rw [run_cons]
  dsimp only
  rw [hstep]

section Undisturbed

variable (protocol : VehicleDataSourceProtocol) (hcalls : threads.calls = [])

include hcalls

theorem suspendDataConsumption_undisturbed
    : (run step threads [.suspendDataConsumption, .call 0]).1.consumer protocol
        =
      (threads.consumer protocol).suspendDataConsumption := by
  rw [run_cons]
  dsimp only [step, invoke]
  rw [hcalls, List.nil_append]
  rw [run_call rfl]
  rfl

theorem resumeDataConsumption_undisturbed (dictionary : Dictionary)
    : (run step threads
        [.resumeDataConsumption dictionary, .call 0, .call 0, .call 0]).1.consumer protocol
        =
      (threads.consumer protocol).resumeDataConsumption (some dictionary) := by
  rw [run_cons]
  dsimp only [step, invoke]
  rw [hcalls, List.nil_append]
  rw [run_call rfl]
  dsimp only [advance, Option.toList]
  rw [run_call rfl]
  dsimp only [advance, Option.toList]
  rw [run_call rfl]
  rfl

theorem start_undisturbed (hfree : threads.mThreadMutex = false)
    : (run step threads [.start, .call 0, .call 0, .call 0, .call 0]).1.consumer protocol
        =
      (threads.consumer protocol).start := by
  rw [run_cons]
  dsimp only [step, invoke]
  rw [hcalls, List.nil_append]
  rw [run_call rfl]
  dsimp only [advance]
  rw [hfree, if_neg nofun]
  dsimp only [Option.toList]
  rw [run_call rfl]
  dsimp only [advance, Option.toList]
  rw [run_call rfl]
  dsimp only [advance, Option.toList]
  rw [run_call rfl]
  rfl

theorem stop_undisturbed (hfree : threads.mThreadMutex = false) {w : Nat}
    (hthread : threads.mThread = some w) (hworker : threads.workers[w]? = some .finished)
    : (run step threads [.stop, .call 0, .call 0, .call 0, .call 0, .call 0]).1.consumer protocol
        =
      (threads.consumer protocol).stop := by
  rw [run_cons]
  dsimp only [step, invoke]
  rw [hcalls, List.nil_append]
  rw [run_call rfl]
  dsimp only [advance]
  rw [hfree, if_neg nofun]
  dsimp only [Option.toList]
  rw [run_call rfl]
  dsimp only [advance, Option.toList]
  rw [run_call rfl]
  dsimp only [advance, Option.toList]
  rw [run_call rfl]
  dsimp only [advance]
  rw [hthread]
  dsimp only
  rw [hworker]
  simp only [Option.any_some, ConsumerWorker.isFinished, if_true]
  dsimp only [Option.toList]
  rw [run_call rfl]
  rfl

end Undisturbed

end ConsumerThreads

end DataInspection
