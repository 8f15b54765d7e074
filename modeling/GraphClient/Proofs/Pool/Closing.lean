import Mathlib.Data.List.Basic
import GraphClient.Pool.Shutdown

namespace GraphClient

namespace ShutdownReport

/-- Counts an endpoint by its own shutdown. -/
def tally (report : ShutdownReport) (timeout : Duration) (shutdown : Shutdown) : ShutdownReport :=
  if shutdown.delay < timeout then report.count shutdown.ending
  else { report with timedOut := report.timedOut + 1 }

/-- The report that counts each of some shutdowns by itself. -/
def ofEach (timeout : Duration) (shutdowns : List Shutdown) : ShutdownReport where
  closed := shutdowns.countP fun shutdown =>
    decide (shutdown.delay < timeout ∧ shutdown.ending = .success)
  failed := shutdowns.countP fun shutdown =>
    decide (shutdown.delay < timeout ∧ shutdown.ending ≠ .success)
  timedOut := shutdowns.countP fun shutdown => decide (timeout ≤ shutdown.delay)

variable {timeout : Duration} {shutdowns others : List Shutdown}

theorem ofEach_cons (timeout : Duration) (shutdown : Shutdown) (rest : List Shutdown) :
    ofEach timeout (shutdown :: rest) = (ofEach timeout rest).tally timeout shutdown := by
  by_cases inTime : shutdown.delay < timeout
  · have ended : ¬ timeout ≤ shutdown.delay := Nat.not_le.2 inTime
    cases ending : shutdown.ending <;> simp [ofEach, tally, count, inTime, ended, ending]
  · have late : timeout ≤ shutdown.delay := Nat.not_lt.1 inTime
    simp [ofEach, tally, inTime, late]

/-- The order of the shutdowns does not show in their report. -/
theorem ofEach_of_perm (same : shutdowns.Perm others) :
    ofEach timeout shutdowns = ofEach timeout others := by
  simp only [ofEach, same.countP_eq]

/-- An endpoint adds to exactly one of the three numbers. -/
theorem total_tally (report : ShutdownReport) (timeout : Duration) (shutdown : Shutdown) :
    (report.tally timeout shutdown).closed + (report.tally timeout shutdown).failed +
        (report.tally timeout shutdown).timedOut =
      report.closed + report.failed + report.timedOut + 1 := by
  by_cases inTime : shutdown.delay < timeout
  · cases ending : shutdown.ending <;> simp only [tally, inTime, if_true, ending, count] <;> omega
  · simp only [tally, inTime, if_false]
    omega

/-- The three numbers of a report add up to the number of endpoints. -/
theorem total_ofEach (timeout : Duration) (shutdowns : List Shutdown) :
    (ofEach timeout shutdowns).closed + (ofEach timeout shutdowns).failed +
      (ofEach timeout shutdowns).timedOut = shutdowns.length := by
  induction shutdowns with
  | nil => rfl
  | cons shutdown rest inductionHypothesis =>
      rw [ofEach_cons, total_tally, inductionHypothesis, List.length_cons]

/-- Shutdowns none of which ends before the time is over have all timed out. -/
theorem ofEach_of_late (late : ∀ shutdown ∈ shutdowns, timeout ≤ shutdown.delay) :
    ofEach timeout shutdowns = { timedOut := shutdowns.length } := by
  have ended {shutdown : Shutdown} (member : shutdown ∈ shutdowns) :
      ¬ shutdown.delay < timeout := Nat.not_lt.2 (late shutdown member)
  rw [ofEach, mk.injEq, List.countP_eq_zero, List.countP_eq_zero, List.countP_eq_length]
  refine ⟨fun shutdown member => ?_, fun shutdown member => ?_, fun shutdown member => ?_⟩
  · simp [ended member]
  · simp [ended member]
  · exact decide_eq_true (late shutdown member)

/-- The counting gets through all shutdowns that are in time before the time is over, because they end
before the others. -/
theorem collect_eq (report : ShutdownReport) (unset : report.timedOut = 0)
    (ordered : shutdowns.Pairwise fun first second => first.delay ≤ second.delay) :
    report.collect timeout shutdowns =
      { closed := report.closed + (ofEach timeout shutdowns).closed
        failed := report.failed + (ofEach timeout shutdowns).failed
        timedOut := (ofEach timeout shutdowns).timedOut } := by
  induction shutdowns generalizing report with
  | nil =>
      rw [collect, mk.injEq]
      exact ⟨rfl, rfl, unset⟩
  | cons next later inductionHypothesis =>
      have ⟨after, laterOrdered⟩ := List.pairwise_cons.1 ordered
      by_cases inTime : next.delay < timeout
      · have kept : (report.count next.ending).timedOut = 0 := by
          rw [← unset]
          cases next.ending <;> rfl
        rw [collect, if_pos inTime, inductionHypothesis _ kept laterOrdered, ofEach_cons, tally,
          if_pos inTime, mk.injEq]
        cases next.ending <;> simp only [count, true_and, and_true] <;> omega
      · have overdue : timeout ≤ next.delay := Nat.not_lt.1 inTime
        have late : ∀ shutdown ∈ next :: later, timeout ≤ shutdown.delay := by
          intro shutdown member
          rcases List.mem_cons.1 member with rfl | further
          · exact overdue
          · exact Nat.le_trans overdue (after shutdown further)
        rw [collect, if_neg inTime, ofEach_of_late late]
        rfl

/-- However shutdowns that take equally long are ordered, each of them is counted by itself. -/
theorem collect_of_perm {ended : List Shutdown} (same : ended.Perm shutdowns)
    (ordered : ended.Pairwise fun first second => first.delay ≤ second.delay) :
    ({} : ShutdownReport).collect timeout ended = ofEach timeout shutdowns := by
  rw [collect_eq {} rfl ordered, ofEach_of_perm same]
  simp only [Nat.zero_add]

/-- A report is clean exactly if every endpoint has closed in time. -/
theorem isClean_ofEach : (ofEach timeout shutdowns).isClean = true ↔
    ∀ shutdown ∈ shutdowns, shutdown.delay < timeout ∧ shutdown.ending = .success := by
  have split : (ofEach timeout shutdowns).isClean = true ↔
      (ofEach timeout shutdowns).failed = 0 ∧ (ofEach timeout shutdowns).timedOut = 0 := by
    simp [isClean]
  rw [split, ofEach, List.countP_eq_zero, List.countP_eq_zero, ← forall₂_and]
  refine forall₂_congr fun shutdown _ => ?_
  have either : timeout ≤ shutdown.delay ↔ ¬ shutdown.delay < timeout := Nat.not_lt.symm
  simp only [decide_eq_true_eq, either]
  tauto

end ShutdownReport

theorem Shutdown.perm_inOrderOfEnding (shutdowns : List Shutdown) :
    (inOrderOfEnding shutdowns).Perm shutdowns :=
  List.mergeSort_perm _ _

/-- In the order of ending no shutdown takes longer than a later one. -/
theorem Shutdown.pairwise_inOrderOfEnding (shutdowns : List Shutdown) :
    (inOrderOfEnding shutdowns).Pairwise fun first second => first.delay ≤ second.delay := by
  rw [inOrderOfEnding]
  refine List.Pairwise.imp of_decide_eq_true (List.pairwise_mergeSort ?_ ?_ shutdowns)
  · intro first second third early late
    exact decide_eq_true (Nat.le_trans (of_decide_eq_true early) (of_decide_eq_true late))
  · intro first second
    rw [Bool.or_eq_true, decide_eq_true_iff, decide_eq_true_iff]
    exact Nat.le_total _ _

namespace Pool

variable {pool : Pool} {timeout : Duration} {behaviours : List Shutdown}

/-- Closing a pool counts each endpoint by its own shutdown, although the counting follows the order
of ending and may be cut off anywhere. -/
theorem close_eq_ofEach (pool : Pool) (timeout : Duration) (behaviours : List Shutdown) :
    pool.close timeout behaviours = .ofEach timeout (pool.shutdowns behaviours) :=
  ShutdownReport.collect_of_perm (Shutdown.perm_inOrderOfEnding _)
    (Shutdown.pairwise_inOrderOfEnding _)

theorem length_shutdowns (pool : Pool) (behaviours : List Shutdown) :
    (pool.shutdowns behaviours).length = pool.size := by
  rw [shutdowns, List.length_mapIdx]
  rfl

/-- The way one node behaves is the shutdown of its endpoint and of no other one. -/
theorem shutdowns_set {position : Nat} {endpoint : Endpoint}
    (held : pool.endpoints[position]? = some endpoint) (own : endpoint.hasShutdown = true)
    (told : position < behaviours.length) (behaviour : Shutdown) :
    pool.shutdowns (behaviours.set position behaviour) =
      (pool.shutdowns behaviours).set position behaviour := by
  apply List.ext_getElem?
  intro other
  simp only [shutdowns, List.getElem?_mapIdx, List.getElem?_set, List.length_mapIdx,
    List.getD_eq_getElem?_getD]
  by_cases same : position = other
  · subst same
    obtain ⟨inside, rfl⟩ := List.getElem?_eq_some_iff.1 held
    simp [own, told, inside]
  · simp [same]

/-- What a closed pool reports does not depend on the order of its endpoints. -/
theorem close_of_perm {other : Pool} {others : List Shutdown}
    (same : (other.shutdowns others).Perm (pool.shutdowns behaviours)) :
    other.close timeout others = pool.close timeout behaviours := by
  rw [close_eq_ofEach, close_eq_ofEach, ShutdownReport.ofEach_of_perm same]

/-- One endpoint adds itself to a report of the others that has nothing to do with it. -/
theorem exists_close_set {position : Nat} {endpoint : Endpoint}
    (held : pool.endpoints[position]? = some endpoint) (own : endpoint.hasShutdown = true)
    (told : position < behaviours.length) :
    ∃ others : ShutdownReport, ∀ behaviour,
      pool.close timeout (behaviours.set position behaviour) = others.tally timeout behaviour := by
  have inside : position < (pool.shutdowns behaviours).length := by
    rw [length_shutdowns]
    exact (List.getElem?_eq_some_iff.1 held).1
  refine ⟨.ofEach timeout ((pool.shutdowns behaviours).eraseIdx position), fun behaviour => ?_⟩
  have apart : ((pool.shutdowns behaviours).set position behaviour).Perm
      (behaviour :: (pool.shutdowns behaviours).eraseIdx position) := by
    rw [List.set_eq_take_append_cons_drop, if_pos inside, List.eraseIdx_eq_take_drop_succ]
    exact List.perm_middle
  rw [close_eq_ofEach, shutdowns_set held own told, ShutdownReport.ofEach_of_perm apart,
    ShutdownReport.ofEach_cons]

/-- Closing a pool counts each endpoint once and by its own shutdown: by its ending if that comes
before the time is over, and as timed out otherwise. Neither the order in which shutdowns end nor the
order of the endpoints shows in the report, and however one endpoint behaves, the others are counted
as they are. -/
theorem close_counts_each_endpoint (pool : Pool) (timeout : Duration) (behaviours : List Shutdown) :
    let shutdowns := pool.shutdowns behaviours
    let report := pool.close timeout behaviours
    report.closed + report.failed + report.timedOut = pool.size ∧
      report.closed = shutdowns.countP (fun shutdown =>
        decide (shutdown.delay < timeout ∧ shutdown.ending = .success)) ∧
      report.failed = shutdowns.countP (fun shutdown =>
        decide (shutdown.delay < timeout ∧ shutdown.ending ≠ .success)) ∧
      report.timedOut = shutdowns.countP (fun shutdown => decide (timeout ≤ shutdown.delay)) ∧
      (timeout.isZero = true → report = { timedOut := pool.size }) ∧
      (report.isClean = true ↔
        ∀ shutdown ∈ shutdowns, shutdown.delay < timeout ∧ shutdown.ending = .success) ∧
      (∀ ended : List Shutdown, ended.Perm shutdowns →
        ended.Pairwise (fun first second => first.delay ≤ second.delay) →
        ({} : ShutdownReport).collect timeout ended = report) ∧
      (∀ (other : Pool) (others : List Shutdown), (other.shutdowns others).Perm shutdowns →
        other.close timeout others = report) ∧
      ∀ position endpoint, pool.endpoints[position]? = some endpoint →
        endpoint.hasShutdown = true → position < behaviours.length →
        ∃ others : ShutdownReport, ∀ behaviour,
          pool.close timeout (behaviours.set position behaviour) =
            others.tally timeout behaviour := by
  intro shutdowns report
  have each : report = .ofEach timeout shutdowns := close_eq_ofEach pool timeout behaviours
  have size : shutdowns.length = pool.size := length_shutdowns pool behaviours
  refine ⟨?_, ?_, ?_, ?_, ?_, ?_, ?_, fun other others => close_of_perm,
    fun position endpoint => exists_close_set⟩
  · rw [each, ShutdownReport.total_ofEach, size]
  · rw [each, ShutdownReport.ofEach]
  · rw [each, ShutdownReport.ofEach]
  · rw [each, ShutdownReport.ofEach]
  · intro zero
    have late : ∀ shutdown ∈ shutdowns, timeout ≤ shutdown.delay := fun shutdown _ =>
      Nat.le_trans (Nat.le_of_eq (beq_iff_eq.1 zero)) (Nat.zero_le _)
    rw [each, ShutdownReport.ofEach_of_late late, size]
  · rw [each, ShutdownReport.isClean_ofEach]
  · intro ended same ordered
    rw [each, ShutdownReport.collect_of_perm same ordered]

/-- A slow node before a crashing one, a failing one and one without a shutdown of its own. -/
example :
    (ofEndpoints [{}, {}, {}, { hasShutdown := false }]).close (.ofMilliseconds 50)
        [{ delay := .ofMilliseconds 60 }, { delay := .ofMilliseconds 9, ending := .crash },
          { delay := .ofMilliseconds 49, ending := .failure default }] =
      { closed := 1, failed := 2, timedOut := 1 } := by
  cbv

end Pool

end GraphClient
