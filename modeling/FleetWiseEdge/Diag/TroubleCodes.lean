import Mathlib.Data.Nat.Bitwise
import FleetWiseEdge.Lib.Machine
import FleetWiseEdge.Diag.Lemmas.OBDWorker

/-!
This module contains the stored trouble codes from the responses of the ECUs to the buffer of the active DTCs:
what the passes of the worker thread offer, and that the texts stand for the codes.
-/

namespace DataInspection

open Cpp DataManagement OBDDataDecoder

structure TroubleCode where
  firstByte : UInt8
  secondByte : UInt8
  deriving DecidableEq, Repr

namespace TroubleCode

def text (code : TroubleCode) : String := (extractDTCString code.firstByte code.secondByte).1

def readDomain (letter : Char) : Option Nat :=
  match letter with
  | 'P' => some 0
  | 'C' => some 1
  | 'B' => some 2
  | 'U' => some 3
  | _ => none

def readDigit (digit : Char) : Option Nat :=
  if '0' ≤ digit ∧ digit ≤ '9' then
    some (digit.toNat - '0'.toNat)
  else if 'A' ≤ digit ∧ digit ≤ 'F' then
    some (digit.toNat - 'A'.toNat + 10)
  else
    none

def read (text : String) : Option TroubleCode :=
  match text.toList with
  | [letter, first, second, third, fourth] => do
    let domain ← readDomain letter
    let first ← readDigit first
    let second ← readDigit second
    let third ← readDigit third
    let fourth ← readDigit fourth
    return ⟨UInt8.ofNat (64 * domain + 16 * first + second), UInt8.ofNat (16 * third + fourth)⟩
  | _ => none

theorem hex_digit {n : Nat} (h : n < 16) : ∃ digit, (hex n).map Char.toUpper = [digit] ∧ readDigit digit = some n := by
  have hall : ∀ n < 16, (hex n).map Char.toUpper = [(hex n).head!.toUpper]
      ∧ readDigit (hex n).head!.toUpper = some n := by decide
  exact ⟨_, hall n h⟩

theorem domain_letter (firstByte : UInt8)
    : ∃ letter, (domainLetter firstByte).map Char.toUpper = [letter]
        ∧ readDomain letter = some (firstByte.toNat / 64) := by
  have hlt : firstByte.toNat / 64 < 4 := by
    have := firstByte.toNat_lt
    omega
  unfold domainLetter DTCDomains.toUType
  rw [Nat.shiftRight_eq_div_pow]
  generalize firstByte.toNat / 2 ^ 6 = domain at hlt ⊢
  have hcases : domain = 0 ∨ domain = 1 ∨ domain = 2 ∨ domain = 3 := by omega
  obtain rfl | rfl | rfl | rfl := hcases
  . exact ⟨'P', rfl, rfl⟩
  . exact ⟨'C', rfl, rfl⟩
  . exact ⟨'B', rfl, rfl⟩
  . exact ⟨'U', rfl, rfl⟩

theorem firstDigit_eq (n : Nat) : (n &&& 0x30) >>> 4 = n / 16 % 4 := by
  rw [Nat.shiftRight_and_distrib, Nat.shiftRight_eq_div_pow]
  exact Nat.and_two_pow_sub_one_eq_mod _ 2

theorem lastDigit_eq (n : Nat) : n &&& 0x0F = n % 16 := Nat.and_two_pow_sub_one_eq_mod _ 4

theorem read_text (code : TroubleCode) : read code.text = some code := by
  have hfirst := code.firstByte.toNat_lt
  have hsecond := code.secondByte.toNat_lt
  obtain ⟨letter, hletter, hdomain⟩ := domain_letter code.firstByte
  obtain ⟨a, ha, hreada⟩ := hex_digit (by omega : code.firstByte.toNat / 16 % 4 < 16)
  obtain ⟨b, hb, hreadb⟩ := hex_digit (by omega : code.firstByte.toNat % 16 < 16)
  obtain ⟨c, hc, hreadc⟩ := hex_digit (by omega : code.secondByte.toNat / 16 < 16)
  obtain ⟨d, hd, hreadd⟩ := hex_digit (by omega : code.secondByte.toNat % 16 < 16)
  have hchars : code.text.toList = [letter, a, b, c, d] := by
    unfold text extractDTCString
    dsimp only
    rw [String.toList_ofList, firstDigit_eq, lastDigit_eq, lastDigit_eq, Nat.shiftRight_eq_div_pow]
    rw [List.map_append, List.map_append, List.map_append, List.map_append]
    rw [hletter, ha, hb, hc, hd]
    rfl
  have hfirstByte : 64 * (code.firstByte.toNat / 64) + 16 * (code.firstByte.toNat / 16 % 4)
      + code.firstByte.toNat % 16 = code.firstByte.toNat := by omega
  have hsecondByte : 16 * (code.secondByte.toNat / 16) + code.secondByte.toNat % 16
      = code.secondByte.toNat := by omega
  unfold read
  rw [hchars]
  dsimp only
  rw [hdomain, hreada, hreadb, hreadc, hreadd]
  simp only [Option.bind_eq_bind, Option.bind_some]
  rw [hfirstByte, hsecondByte, UInt8.ofNat_toNat, UInt8.ofNat_toNat]
  rfl

example : text ⟨0xC1, 0x48⟩ = "U0148" := by decide

theorem text_extracted (code : TroubleCode) : (extractDTCString code.firstByte code.secondByte).2 = true := by
  have hread := code.read_text
  unfold text extractDTCString at hread
  unfold extractDTCString
  dsimp only at hread ⊢
  generalize String.ofList _ = dtcString at hread ⊢
  rw [Bool.not_eq_true']
  by_contra hempty
  rw [Bool.not_eq_false, String.isEmpty_iff] at hempty
  rw [hempty] at hread
  contradiction

end TroubleCode

def codePairs (bytes : List UInt8) : List TroubleCode :=
  match bytes with
  | firstByte :: secondByte :: bytes => ⟨firstByte, secondByte⟩ :: codePairs bytes
  | _ => []

def storedCodes (ecuResponse : Option (List UInt8)) : Option (List TroubleCode) :=
  match ecuResponse with
  | some (positive :: count :: bytes) =>
    if positive ≠ 0x43 then
      none
    else if count = 0 then
      some []
    else if bytes.length = 2 * count.toNat then
      some (codePairs bytes)
    else
      none
  | _ => none

def storedCodesPDU (codes : List TroubleCode) : List UInt8 :=
  0x43 :: UInt8.ofNat codes.length :: codes.flatMap fun code => [code.firstByte, code.secondByte]

theorem codePairs_flatMap (codes : List TroubleCode)
    : codePairs (codes.flatMap fun code => [code.firstByte, code.secondByte]) = codes := by
  induction codes with
  | nil => rfl
  | cons code codes ih =>
    rw [List.flatMap_cons]
    simp only [List.cons_append, List.nil_append]
    unfold codePairs
    rw [ih]

theorem length_codeBytes (codes : List TroubleCode)
    : (codes.flatMap fun code => [code.firstByte, code.secondByte]).length = 2 * codes.length := by
  induction codes with
  | nil => rfl
  | cons code codes ih =>
    rw [List.flatMap_cons, List.length_append, ih, List.length_cons]
    simp only [List.length_cons, List.length_nil]
    omega

theorem storedCodes_storedCodesPDU {codes : List TroubleCode} (h : codes.length < 256)
    : storedCodes (some (storedCodesPDU codes)) = some codes := by
  have hcount : (UInt8.ofNat codes.length).toNat = codes.length := UInt8.toNat_ofNat_of_lt' h
  unfold storedCodes storedCodesPDU
  dsimp only
  rw [if_neg (by simp)]
  by_cases hnil : codes = []
  . simp [hnil]
  . have hne : ¬ UInt8.ofNat codes.length = 0 := by
      intro hzero
      rw [hzero] at hcount
      exact hnil (List.length_eq_zero_iff.mp hcount.symm)
    rw [if_neg hne, hcount, if_pos (length_codeBytes codes), codePairs_flatMap]

namespace OBDWorker

theorem decodeDTCCodes_eq (bytes : List UInt8) (mDTCCodes : List String)
    : decodeDTCCodes bytes mDTCCodes = mDTCCodes ++ (codePairs bytes).map TroubleCode.text := by
  induction bytes using codePairs.induct generalizing mDTCCodes with
  | case1 firstByte secondByte bytes ih =>
    have hextracted := TroubleCode.text_extracted ⟨firstByte, secondByte⟩
    unfold decodeDTCCodes codePairs
    dsimp only at hextracted ⊢
    rw [hextracted, if_pos rfl, ih, List.map_cons, List.append_assoc]
    rfl
  | case2 bytes hshort =>
    unfold decodeDTCCodes codePairs
    simp

theorem codePairs_ne_nil {bytes : List UInt8} {count : Nat} (hcount : count ≠ 0) (h : bytes.length = 2 * count)
    : codePairs bytes ≠ [] := by
  match bytes with
  | [] | [_] =>
    simp only [List.length_cons, List.length_nil] at h
    omega
  | _ :: _ :: _ => simp [codePairs]

theorem decodeDTCs_positive (count : UInt8) (bytes : List UInt8) (info : DTCInfo)
    : decodeDTCs .STORED_DTC (0x43 :: count :: bytes) info
        =
      if count = 0 then
        ({ info with mSID := 3 }, true)
      else if bytes.length = 2 * count.toNat then
        ({ info with mSID := 3, mDTCCodes := info.mDTCCodes ++ (codePairs bytes).map TroubleCode.text }, true)
      else
        ({ info with mSID := 3 }, false) := by
  have hguard : ¬ (((0x43 :: count :: bytes).length < 2
      || POSITIVE_ECU_RESPONSE_BASE + SIDs.STORED_DTC.toUType ≠ (((0x43 :: count :: bytes)[0]?.getD 0).toNat : Nat))
        = true) := by
    simp [POSITIVE_ECU_RESPONSE_BASE, SIDs.toUType]
  have hcount : (((0x43 :: count :: bytes : List UInt8)[1]?).getD 0) = count := rfl
  unfold decodeDTCs
  rw [if_neg hguard]
  dsimp only
  rw [hcount]
  by_cases hzero : count = 0
  . rw [if_pos (by rw [hzero]; rfl), if_pos hzero]
    rfl
  . have hpos : count.toNat ≠ 0 := fun h => hzero (UInt8.toNat_inj.mp h)
    rw [if_neg hpos, if_neg hzero]
    by_cases hlength : bytes.length = 2 * count.toNat
    . have hsize : ¬ count.toNat * 2 + 2 ≠ (0x43 :: count :: bytes).length := by
        simp only [List.length_cons]
        omega
      rw [if_neg hsize, if_pos hlength, decodeDTCCodes_eq]
      rw [List.drop_succ_cons, List.drop_succ_cons, List.drop_zero]
      simp [SIDs.toUType, codePairs_ne_nil hpos hlength]
    . have hsize : count.toNat * 2 + 2 ≠ (0x43 :: count :: bytes).length := by
        simp only [List.length_cons]
        omega
      rw [if_pos hsize, if_neg hlength]
      rfl

theorem decodeDTCs_negative {positive : UInt8} (h : positive ≠ 0x43) (bytes : List UInt8) (info : DTCInfo)
    : decodeDTCs .STORED_DTC (positive :: bytes) info = (info, false) := by
  have hnat : 67 ≠ positive.toNat := by
    intro heq
    apply h
    rw [← UInt8.toNat_inj, ← heq]
    rfl
  unfold decodeDTCs
  rw [if_pos]
  rw [List.getElem?_cons_zero, Option.getD_some]
  simp [POSITIVE_ECU_RESPONSE_BASE, SIDs.toUType, hnat]

theorem receiveDTCs_eq (ecuResponse : Option (List UInt8)) (info : DTCInfo)
    : ∃ sid,
        receiveDTCs .STORED_DTC ecuResponse info
          = ({ info with
                mSID := sid
                mDTCCodes := info.mDTCCodes ++ ((storedCodes ecuResponse).getD []).map TroubleCode.text },
              (storedCodes ecuResponse).isSome)
          ∧
        ((storedCodes ecuResponse).isSome = true ∨ info.mSID = 3 → sid = 3) := by
  unfold receiveDTCs
  match ecuResponse with
  | none => exact ⟨info.mSID, by simp [storedCodes], by simp [storedCodes]⟩
  | some [] => exact ⟨info.mSID, by simp [storedCodes], by simp [storedCodes]⟩
  | some [_] => exact ⟨info.mSID, by simp [storedCodes, decodeDTCs], by simp [storedCodes]⟩
  | some (positive :: count :: bytes) =>
    by_cases hpositive : positive = 0x43
    . rw [hpositive]
      dsimp only
      rw [decodeDTCs_positive]
      unfold storedCodes
      dsimp only
      rw [if_neg (not_not.mpr rfl)]
      refine ⟨3, ?_, fun _ => rfl⟩
      by_cases hzero : count = 0
      . rw [if_pos hzero, if_pos hzero]
        simp
      . rw [if_neg hzero, if_neg hzero]
        by_cases hlength : bytes.length = 2 * count.toNat
        . rw [if_pos hlength, if_pos hlength]
          rfl
        . rw [if_neg hlength, if_neg hlength]
          simp
    . dsimp only
      rw [decodeDTCs_negative hpositive]
      unfold storedCodes
      dsimp only
      rw [if_pos hpositive]
      exact ⟨info.mSID, by simp, by simp⟩

def answeredCodes (mHasTransmission : Bool) (storedDTCs : ECUType → Option (List UInt8)) : List (List TroubleCode) :=
  (if mHasTransmission then [.ENGINE, .TRANSMISSION] else [.ENGINE]).filterMap fun ecu =>
    storedCodes (storedDTCs ecu)

def dtcInfo (receiveTime : Nat) (codes : List TroubleCode) : DTCInfo where
  mSID := 3
  receiveTime := receiveTime
  mDTCCodes := codes.map TroubleCode.text

theorem requestStoredDTCs_eq (mHasTransmission : Bool) (storedDTCs : ECUType → Option (List UInt8))
    (receiveTime : Nat)
    : requestStoredDTCs mHasTransmission storedDTCs receiveTime
        =
      if (answeredCodes mHasTransmission storedDTCs).isEmpty then
        none
      else
        some (dtcInfo receiveTime (answeredCodes mHasTransmission storedDTCs).flatten) := by
  obtain ⟨sid, hengine, hsid⟩ := receiveDTCs_eq (storedDTCs .ENGINE) { receiveTime := receiveTime }
  unfold requestStoredDTCs answeredCodes dtcInfo
  rw [hengine]
  dsimp only
  cases mHasTransmission with
  | false =>
    cases hcodes : storedCodes (storedDTCs .ENGINE) with
    | none => simp [hcodes]
    | some codes =>
      rw [hcodes] at hsid
      rw [hsid (Or.inl rfl)]
      simp [hcodes]
  | true =>
    obtain ⟨sid', htransmission, hsid'⟩ := receiveDTCs_eq (storedDTCs .TRANSMISSION)
      { mSID := sid
        receiveTime := receiveTime
        mDTCCodes := [] ++ ((storedCodes (storedDTCs .ENGINE)).getD []).map TroubleCode.text }
    rw [if_pos rfl, htransmission]
    cases hcodes : storedCodes (storedDTCs .ENGINE) with
    | none =>
      cases hcodes' : storedCodes (storedDTCs .TRANSMISSION) with
      | none => simp [hcodes, hcodes']
      | some codes' =>
        rw [hcodes'] at hsid'
        rw [hsid' (Or.inl rfl)]
        simp [hcodes, hcodes']
    | some codes =>
      rw [hcodes] at hsid
      have hthree := hsid (Or.inl rfl)
      rw [hsid' (Or.inr hthree)]
      cases hcodes' : storedCodes (storedDTCs .TRANSMISSION) with
      | none => simp [hcodes, hcodes']
      | some codes' => simp [hcodes, hcodes']

end OBDWorker

/--
Whether the conditions need the active DTCs, and when they were requested last.
-/
structure DTCReporter where
  enabled : Bool := false
  lastRequest : Nat

/--
The codes are requested once per interval as long as a condition needs them, the ones that are reported are
those of the ECUs that answer.
-/
def DTCReporter.step {V : Type} (mHasTransmission : Bool) (intervalSeconds : Nat) (r : DTCReporter)
    (e : OBDWorkerEvent V)
    : DTCReporter × List (Nat × List TroubleCode) :=
  match e with
  | .dictionaryChange _ _ => (r, [])
  | .inspectionMatrixChange none => (r, [])
  | .inspectionMatrixChange (some matrix) =>
    ({ r with enabled := matrix.conditions.any (·.includeActiveDtcs) }, [])
  | .pass responses now =>
    if r.enabled && OBDWorker.isDue intervalSeconds r.lastRequest now then
      let answered := OBDWorker.answeredCodes mHasTransmission responses.storedDTCs
      ({ r with lastRequest := now }, if answered.isEmpty then [] else [(now, answered.flatten)])
    else
      (r, [])

namespace OBDWorker

variable {V : Type} [InspectionValue V] {s : OBDWorker V} {r : DTCReporter}

structure Reports (mHasTransmission : Bool) (dtcInterval : Nat) (s : OBDWorker V) (r : DTCReporter) : Prop where
  lists : KnowsLists s
  hasTransmission : s.mHasTransmission = mHasTransmission
  interval : s.mDTCRequestIntervalSeconds = dtcInterval
  enabled : s.mShouldRequestDTCs = r.enabled
  timer : s.mDTCTimer = r.lastRequest

omit [InspectionValue V] in
theorem Reports.of_same {mHasTransmission : Bool} {dtcInterval : Nat} {s' : OBDWorker V}
    (h : Reports mHasTransmission dtcInterval s r) (hlists : KnowsLists s') (hsame : SameDTCState s s')
    : Reports mHasTransmission dtcInterval s' r where
  lists := hlists
  hasTransmission := hsame.hasTransmission.trans h.hasTransmission
  interval := hsame.interval.trans h.interval
  enabled := hsame.shouldRequestDTCs.trans h.enabled
  timer := hsame.timer.trans h.timer

def offeredDTCs (outputs : List (OBDOutput V)) : List DTCInfo := outputs.filterMap (·.activeDTCs)

omit [InspectionValue V] in
theorem requestDTCFlow_reports {mHasTransmission : Bool} {dtcInterval : Nat}
    (h : Reports mHasTransmission dtcInterval s r) (responses : OBDResponses) (now : Nat)
    (signals : List (CollectedSignal V))
    : let next := r.step mHasTransmission dtcInterval (.pass responses now : OBDWorkerEvent V)
      Reports mHasTransmission dtcInterval (s.requestDTCFlow responses now).1 next.1
        ∧
      offeredDTCs [⟨signals, (s.requestDTCFlow responses now).2⟩] = next.2.map fun it => dtcInfo it.1 it.2 := by
  have hcond : (s.mShouldRequestDTCs && isDue s.mDTCRequestIntervalSeconds s.mDTCTimer now)
      = (r.enabled && isDue dtcInterval r.lastRequest now) := by
    rw [h.enabled, h.interval, h.timer]
  unfold requestDTCFlow DTCReporter.step
  dsimp only
  rw [hcond]
  by_cases hdue : (r.enabled && isDue dtcInterval r.lastRequest now) = true
  . rw [if_pos hdue, if_pos hdue, requestStoredDTCs_eq, h.hasTransmission]
    refine ⟨⟨h.lists, h.hasTransmission, h.interval, h.enabled, rfl⟩, ?_⟩
    unfold offeredDTCs
    dsimp only
    split
    . rfl
    . rfl
  . rw [if_neg hdue, if_neg hdue]
    exact ⟨h, rfl⟩

theorem step_reports {mHasTransmission : Bool} {dtcInterval : Nat}
    (h : Reports mHasTransmission dtcInterval s r) (e : OBDWorkerEvent V)
    : ∃ s' outputs, s.step e = some (s', outputs)
        ∧
      Reports mHasTransmission dtcInterval s' (r.step mHasTransmission dtcInterval e).1
        ∧
      offeredDTCs outputs = (r.step mHasTransmission dtcInterval e).2.map fun it => dtcInfo it.1 it.2 := by
  cases e with
  | dictionaryChange dictionary networkProtocol =>
    have ⟨known, hholds⟩ := h.lists
    have hchange := hholds.dictionaryChange dictionary networkProtocol
    have htransmission := hchange.hasTransmission
    refine ⟨_, _, rfl, ⟨?_, htransmission.trans h.hasTransmission, h.interval, h.enabled, h.timer⟩, rfl⟩
    unfold KnowsLists
    rw [htransmission]
    exact ⟨_, hchange⟩
  | inspectionMatrixChange activeConditions =>
    cases activeConditions with
    | none => exact ⟨_, _, rfl, h, rfl⟩
    | some matrix => exact ⟨_, _, rfl, ⟨h.lists, h.hasTransmission, h.interval, rfl, h.timer⟩, rfl⟩
  | pass responses now =>
    obtain ⟨htaken, hsame⟩ := setDecoderDictionary_frame h.lists
    obtain ⟨s₁, signals, heq, hlists, hsame₁⟩ := requestPIDFlow_frame htaken responses now
    have hnext := requestDTCFlow_reports (h.of_same hlists (hsame.trans hsame₁)) responses now signals
    refine ⟨_, _, ?_, hnext.1, hnext.2⟩
    unfold step doWork
    dsimp only
    rw [heq]
    rfl

theorem run_reports {mHasTransmission : Bool} {dtcInterval : Nat}
    (h : Reports mHasTransmission dtcInterval s r) (events : List (OBDWorkerEvent V))
    : ∃ s' outputs, s.run events = some (s', outputs)
        ∧
      offeredDTCs outputs
        = (Machine.run (DTCReporter.step mHasTransmission dtcInterval) r events).2.map
            fun it => dtcInfo it.1 it.2 := by
  induction events generalizing s r with
  | nil => exact ⟨s, [], rfl, rfl⟩
  | cons e es ih =>
    obtain ⟨s₁, outputs, heq, hreports, hoffered⟩ := step_reports h e
    obtain ⟨s', rest, hrest, hoffered'⟩ := ih hreports
    refine ⟨s', outputs ++ rest, run_cons_of heq hrest, ?_⟩
    rw [Machine.run_cons, List.map_append, ← hoffered, ← hoffered']
    exact List.filterMap_append

omit [InspectionValue V] in
theorem reports_start (mHasTransmission : Bool) (pidInterval dtcInterval time : Nat)
    : Reports mHasTransmission dtcInterval (start mHasTransmission pidInterval dtcInterval time : OBDWorker V)
        { lastRequest := time } where
  lists := ⟨{}, rfl, rfl, fun ecu => by cases ecu <;> rfl, fun ecu => by cases ecu <;> rfl⟩
  hasTransmission := rfl
  interval := rfl
  enabled := rfl
  timer := rfl

/--
Whatever the ECUs answer, no pass leaves a list, and the infos that are offered hold the codes of the ECUs
that answer, once per interval and only as long as a condition needs them. The codes can be read from them.
-/
theorem stored_codes_reported (mHasTransmission : Bool) (pidInterval dtcInterval time : Nat)
    (events : List (OBDWorkerEvent V))
    : ∃ s' outputs,
        (start mHasTransmission pidInterval dtcInterval time).run events = some (s', outputs)
          ∧
        offeredDTCs outputs
          = (Machine.run (DTCReporter.step mHasTransmission dtcInterval) { lastRequest := time } events).2.map
              (fun it => dtcInfo it.1 it.2)
          ∧
        (offeredDTCs outputs).map (fun info => (info.receiveTime, info.mDTCCodes.map TroubleCode.read))
          = (Machine.run (DTCReporter.step mHasTransmission dtcInterval) { lastRequest := time } events).2.map
              (fun it => (it.1, it.2.map some)) := by
  obtain ⟨s', outputs, heq, hoffered⟩ :=
    run_reports (reports_start (V := V) mHasTransmission pidInterval dtcInterval time) events
  refine ⟨s', outputs, heq, hoffered, ?_⟩
  rw [hoffered, List.map_map]
  apply List.map_congr_left
  intro it _
  unfold dtcInfo
  simp [TroubleCode.read_text, Function.comp_def]

end OBDWorker

end DataInspection
