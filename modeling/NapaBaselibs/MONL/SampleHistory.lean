import NapaBaselibs.MONL.SampleWindow

/-
  Every interleaving of samples, resizes, initialisations and
  publications of a result buffer.

  The history of a buffer is what a reference would keep: the
  samples since the last initialisation, the size, and how
  many of the last samples are still in the window.  The
  statistics of the buffer are those of its history.

  Key definitions include:
    * `BufferCall`, `ResultBuffer.perform`
    * `History`, `History.after`

  Key theorems include:
    * `recursive_statistics_exact`
    * `window_statistics_exact`
-/

------------------------------------------------------------
-- Calls And Histories
------------------------------------------------------------

namespace NapaBaselibs

namespace MONL

open RingBuffer SampleStats

/- The calls of the owner of a buffer. -/
inductive BufferCall where
  | newSample
      (m : HostMeasure)
      (out : Surroundings)
      (x : ℚ)
  | resizeBuffer
      (s : Nat)
      (memory : Nat → Result)
  | init (m : HostMeasure)
  | publishResults
      (m : HostMeasure)
      (out : Surroundings)
  | setPublishStatisticalType
      (name : Option String)
      (st : List StatType)
      (m : HostMeasure)
      (out : Surroundings)
  | updateStats

/- A resize leaves room for a sample. -/
def BufferCall.LeavesRoom : BufferCall → Prop
  | resizeBuffer s _ => 1 ≤ s
  | _ => True

/-
  What a reference keeps: the samples since the last
  initialisation, and how many of them are in the window.
-/
structure History where
  size : Nat
  count : Nat
  samples : List ℚ

namespace History

/- Nothing has happened yet. -/
def initial (size : Nat) : History where
  size := size
  count := 0
  samples := []

/- What a call does to the history. -/
def after
    (h : History) : BufferCall → History
  | .newSample _ _ x =>
      { h with
        count := min h.size (h.count + 1)
        samples := h.samples ++ [x] }
  | .resizeBuffer s _ =>
      { h with
        size := s
        count := min s h.count }
  | .init _ =>
      { h with
        count := 0
        samples := [] }
  | _ => h

/- The samples in the window. -/
def kept (h : History) : List ℚ :=
  lastN h.count h.samples

end History

namespace ResultBuffer

/- One call. -/
def perform
    (b : ResultBuffer) : BufferCall → ResultBuffer
  | .newSample m out x => (newSample m out (some x) b).1
  | .resizeBuffer s memory => resizeBuffer s memory b
  | .init m => init m b
  | .publishResults m out => (publishResults m out b).1
  | .setPublishStatisticalType name st m out =>
      (setPublishStatisticalType name st m out b).1
  | .updateStats => updateStats b

------------------------------------------------------------
-- The Parts Of A Sample
------------------------------------------------------------

/- Neither the cells nor their sum change. -/
theorem updateSums_same
    (b : ResultBuffer)
    (r : Result) :
    SameWindow b (b.updateSums r) := by
  unfold updateSums
  extract_lets b₁ b₂ b₃ b₄ b₅
  have hStat : SameWindow b₄ b₅ := by
    simp only [b₅]
    split <;> exact ⟨rfl, rfl, rfl, rfl, rfl⟩
  exact ⟨hStat.circularBuffer, hStat.size, hStat.pos,
    hStat.nSamples, hStat.winSum⟩

theorem updateVariance_same
    (b : ResultBuffer)
    (r : Result) :
    SameWindow b (b.updateVariance r) := by
  unfold updateVariance
  extract_lets n
  split <;> exact ⟨rfl, rfl, rfl, rfl, rfl⟩

/- The statistics that are not the mean or a sum stay. -/
theorem updateSums_spec
    (b : ResultBuffer)
    (r : Result) :
    (b.updateSums r).samples = b.samples ∧
      (b.updateSums r).stats .last = r ∧
      (b.updateSums r).stats .sum =
        accumulate (b.stats .sum) r ∧
      (b.updateSums r).stats .var = b.stats .var ∧
      (b.updateSums r).stats .avg =
        quotient
          (plus
            (times (some (b.samples - 1))
              (if b.stats .avg = none then some 0
                else b.stats .avg))
            r)
          (some b.samples) := by
  unfold updateSums
  by_cases hAvg : b.stats .avg = none
  · simp [hAvg]
  · simp [hAvg]

theorem updateVariance_spec
    (b : ResultBuffer)
    (r : Result) :
    (b.updateVariance r).samples = b.samples ∧
      (b.updateVariance r).stats .last = b.stats .last ∧
      (b.updateVariance r).stats .sum = b.stats .sum ∧
      (b.updateVariance r).stats .avg = b.stats .avg := by
  unfold updateVariance
  extract_lets n
  split <;> exact ⟨rfl, rfl, rfl, rfl⟩

/- The window is apart from the record. -/
theorem newSampleWin_same
    (b : ResultBuffer)
    (r : Result) :
    SameRecord b (b.newSampleWin r) where
  samples := newSampleWin_samples b r
  last := newSampleWin_stats b r (by decide)
  avg := newSampleWin_stats b r (by decide)
  var := newSampleWin_stats b r (by decide)
  sum := newSampleWin_stats b r (by decide)

theorem foldl_newSampleWin_same
    (is : List Nat)
    (read : Nat → Result)
    (b : ResultBuffer) :
    SameRecord b
        (is.foldl (fun new i => new.newSampleWin (read i)) b) ∧
      (is.foldl
        (fun new i => new.newSampleWin (read i)) b).size =
        b.size := by
  induction is generalizing b with
  | nil => exact ⟨⟨rfl, rfl, rfl, rfl, rfl⟩, rfl⟩
  | cons i is ih =>
      rcases ih (b.newSampleWin (read i)) with ⟨hSame, hSize⟩
      exact ⟨(newSampleWin_same b _).trans hSame,
        hSize.trans (newSampleWin_size b _)⟩

/- A resize is apart from the record. -/
theorem resizeBuffer_same
    (s : Nat)
    (memory : Nat → Result)
    (b : ResultBuffer) :
    SameRecord b (b.resizeBuffer s memory) ∧
      (b.resizeBuffer s memory).size = s := by
  unfold resizeBuffer
  split
  case isTrue hSame =>
    exact ⟨⟨rfl, rfl, rfl, rfl, rfl⟩, hSame.symm⟩
  case isFalse hOther =>
    extract_lets nSam emptied
    rcases foldl_newSampleWin_same (List.range nSam)
        (fun i => b.cell (wrapped b.size (b.pos - nSam + i)))
        (emptied.setStat .winSum (some 0)) with
      ⟨hSame, hSize⟩
    have hEmptied :
        SameRecord b (emptied.setStat .winSum (some 0)) :=
      ⟨rfl, rfl, rfl, rfl, rfl⟩
    exact ⟨hEmptied.trans hSame, hSize⟩

/- The extremes are apart from the samples. -/
theorem updateExtremes_same
    (b : ResultBuffer)
    (r : Result) :
    SameSamples b (b.updateExtremes r) := by
  have hStat :
      ∀ b' : ResultBuffer,
        SameSamples b' (b'.setStat .min r) ∧
          SameSamples b' (b'.setStat .max r) :=
    fun b' =>
      ⟨⟨⟨rfl, rfl, rfl, rfl, rfl⟩, ⟨rfl, rfl, rfl, rfl, rfl⟩⟩,
        ⟨⟨rfl, rfl, rfl, rfl, rfl⟩, ⟨rfl, rfl, rfl, rfl, rfl⟩⟩⟩
  unfold updateExtremes
  extract_lets b₁
  have hMin : SameSamples b b₁ :=
    .ite _ (hStat b).1 (.refl b)
  exact .ite _ (hMin.trans (hStat b₁).2) hMin

------------------------------------------------------------
-- Recursive Statistics
------------------------------------------------------------

/- The recursive statistics are those of the samples. -/
structure Describes
    (b : ResultBuffer)
    (xs : List ℚ) : Prop where
  samples : b.samples = xs.length
  sum : Totals (b.stats .sum) xs
  avg :
    b.stats .avg = some (mean xs) ∨
      xs = [] ∧ b.stats .avg = none
  var : xs ≠ [] → b.stats .var = some (variance xs)
  last : xs ≠ [] → b.stats .last = xs.getLast?

namespace Describes

variable {b b' : ResultBuffer}
variable {xs : List ℚ}

theorem of_same
    (hDescribes : Describes b xs)
    (hSame : SameRecord b b') :
    Describes b' xs where
  samples := hSame.samples.trans hDescribes.samples
  sum := by
    rw [hSame.sum]
    exact hDescribes.sum
  avg := by
    rw [hSame.avg]
    exact hDescribes.avg
  var := by
    rw [hSame.var]
    exact hDescribes.var
  last := by
    rw [hSame.last]
    exact hDescribes.last

/- After an initialisation in either mode. -/
theorem init
    (m : HostMeasure)
    (b : ResultBuffer) :
    Describes (b.init m) [] where
  samples := rfl
  sum := by
    unfold ResultBuffer.init
    by_cases hMode : m.initNanZero = 0
    · simp [Totals, hMode]
    · simp [Totals, hMode]
  avg := by
    unfold ResultBuffer.init
    by_cases hMode : m.initNanZero = 0
    · simp [hMode]
    · simp [hMode, mean]
  var := fun hSome => absurd rfl hSome
  last := fun hSome => absurd rfl hSome

/- The new mean, from the number and the mean before. -/
theorem avg_concat
    (hDescribes : Describes b xs)
    (x : ℚ) :
    (updateSums { b with samples := b.samples + 1 }
        (some x)).stats .avg =
      some (mean (xs ++ [x])) := by
  have hNumber := hDescribes.samples
  have hPositive : (xs.length : ℚ) + 1 ≠ 0 := by positivity
  have hStart :
      (if b.stats .avg = none then some 0
        else b.stats .avg) = some (mean xs) := by
    rcases hDescribes.avg with hMean | ⟨rfl, hNone⟩
    · simp [hMean]
    · simp [hNone, mean]
  rw [(updateSums_spec _ _).2.2.2.2]
  change quotient (plus (times _ (if b.stats .avg = none then
    some 0 else b.stats .avg)) _) _ = _
  rw [hStart, mean_concat]
  simp [quotient, plus, times, arith, hNumber, hPositive]

/- The new variance, from the one before and the new mean. -/
theorem var_concat
    (hDescribes : Describes b xs)
    (x : ℚ)
    (hSamples : b'.samples = xs.length + 1)
    (hVar : b'.stats .var = b.stats .var)
    (hAvg : b'.stats .avg = some (mean (xs ++ [x]))) :
    (b'.updateVariance (some x)).stats .var =
      some (variance (xs ++ [x])) := by
  unfold updateVariance
  extract_lets n
  by_cases hFirst : xs = []
  · subst hFirst
    rw [if_pos (by rw [hSamples]; decide)]
    simp [variance_singleton]
  · have hMany : ¬ b'.samples < 2 := by
      have hPositive := List.length_pos_of_ne_nil hFirst
      omega
    have hLength : (xs.length : ℚ) ≠ 0 := by
      simpa [List.length_eq_zero_iff] using hFirst
    have hCount : n = xs.length + 1 := by
      simp [n, hSamples]
    rw [if_neg hMany, setStat_stats, if_pos rfl, hVar,
      hDescribes.var hFirst, hAvg, hCount,
      variance_concat xs x hFirst]
    simp [quotient, plus, minus, times, squared, arith, hLength]
    ring

/- A sample is added to the statistics. -/
theorem addSample
    (hDescribes : Describes b xs)
    (x : ℚ) :
    Describes (b.addSample (some x)) (xs ++ [x]) := by
  have hNumber := hDescribes.samples
  unfold ResultBuffer.addSample
  extract_lets b₁ b₂ b₃ b₄ b₅
  rcases updateSums_spec b₁ (some x) with
    ⟨hSamples₂, hLast₂, hSum₂, hVar₂, -⟩
  rcases updateVariance_spec b₂ (some x) with
    ⟨hSamples₃, hLast₃, hSum₃, hAvg₃⟩
  have hAvg₂ : b₂.stats .avg = some (mean (xs ++ [x])) :=
    hDescribes.avg_concat x
  have hCount₂ : b₂.samples = xs.length + 1 := by
    rw [hSamples₂, ← hNumber]
  have hVar₃ :
      b₃.stats .var = some (variance (xs ++ [x])) :=
    hDescribes.var_concat x hCount₂ hVar₂ hAvg₂
  have hDescribes₃ : Describes b₃ (xs ++ [x]) := by
    constructor
    case samples =>
      rw [hSamples₃, hCount₂, List.length_append,
        List.length_singleton]
    case sum =>
      rw [hSum₃, hSum₂]
      exact .inl (hDescribes.sum.accumulate x)
    case avg => exact .inl (hAvg₃.trans hAvg₂)
    case var => exact fun _ => hVar₃
    case last =>
      intro _
      rw [hLast₃, hLast₂, List.getLast?_concat]
  have hDescribes₄ : Describes b₄ (xs ++ [x]) :=
    hDescribes₃.of_same (updateExtremes_same b₃ _).toSameRecord
  have hDescribes₅ : Describes b₅ (xs ++ [x]) :=
    hDescribes₄.of_same (newSampleWin_same b₄ _)
  exact hDescribes₅.of_same ⟨rfl, rfl, rfl, rfl, rfl⟩

end Describes

------------------------------------------------------------
-- Samples In The Window
------------------------------------------------------------

/- A sample is put at the end of the window. -/
theorem Represents.addSample
    {b : ResultBuffer}
    {w : List ℚ}
    (hHolds : Represents b w)
    (x : ℚ) :
    Represents (b.addSample (some x))
      (lastN b.size (w ++ [x])) := by
  unfold ResultBuffer.addSample
  extract_lets b₁ b₂ b₃ b₄ b₅
  have hSame₁ : SameWindow b b₁ :=
    ⟨rfl, rfl, rfl, rfl, rfl⟩
  have hSame₂ : SameWindow b b₂ :=
    hSame₁.trans (updateSums_same b₁ _)
  have hSame₃ : SameWindow b b₃ :=
    hSame₂.trans (updateVariance_same b₂ _)
  have hSame₄ : SameWindow b b₄ :=
    hSame₃.trans (updateExtremes_same b₃ _).toSameWindow
  have hHolds₅ := (hHolds.of_same hSame₄).newSampleWin x
  rw [hSame₄.size] at hHolds₅
  exact hHolds₅.of_same ⟨rfl, rfl, rfl, rfl, rfl⟩

/- The window of an initialised buffer is empty. -/
theorem Represents.init
    (m : HostMeasure)
    {b : ResultBuffer}
    (hSize : 1 ≤ b.size) :
    Represents (b.init m) [] where
  length := List.length_replicate
  pos_lt := hSize
  count := rfl
  count_le := Nat.zero_le _
  cells := by
    rw [List.length_nil, window_zero]
    rfl
  winSum := by
    unfold ResultBuffer.init
    by_cases hMode : m.initNanZero = 0
    · simp [Totals, hMode]
    · simp [Totals, hMode]

/- A publication after the sample changes neither. -/
theorem newSample_same
    (m : HostMeasure)
    (out : Surroundings)
    (r : Result)
    (b : ResultBuffer) :
    SameSamples (b.addSample r) (b.newSample m out r).1 := by
  unfold newSample
  extract_lets b₁
  split
  · exact SameSamples.publishResults m out b₁
  · exact .refl b₁

theorem setPublishStatisticalType_same
    (name : Option String)
    (st : List StatType)
    (m : HostMeasure)
    (out : Surroundings)
    (b : ResultBuffer) :
    SameSamples b
      (b.setPublishStatisticalType name st m out).1 := by
  unfold setPublishStatisticalType
  refine SameSamples.trans ?_
    (SameSamples.publishResults m out _)
  exact
    ⟨⟨rfl, rfl, rfl, rfl, rfl⟩, ⟨rfl, rfl, rfl, rfl, rfl⟩⟩

theorem addSample_size
    (b : ResultBuffer)
    (r : Result) :
    (b.addSample r).size = b.size := by
  unfold addSample
  extract_lets b₁ b₂ b₃ b₄ b₅
  change b₅.size = _
  rw [newSampleWin_size, (updateExtremes_same b₃ r).size,
    (updateVariance_same b₂ r).size,
    (updateSums_same b₁ r).size]

------------------------------------------------------------
-- The Buffer Follows Its History
------------------------------------------------------------

/- The record is that of the history, after any call. -/
theorem Describes.perform
    {b : ResultBuffer}
    {h : History}
    (hDescribes : Describes b h.samples)
    (call : BufferCall) :
    Describes (b.perform call) (h.after call).samples := by
  cases call with
  | newSample m out x =>
      exact (hDescribes.addSample x).of_same
        (newSample_same m out _ b).toSameRecord
  | resizeBuffer s memory =>
      exact hDescribes.of_same (resizeBuffer_same s memory b).1
  | init m => exact Describes.init m b
  | publishResults m out =>
      exact hDescribes.of_same
        (SameSamples.publishResults m out b).toSameRecord
  | setPublishStatisticalType name st m out =>
      exact hDescribes.of_same
        (setPublishStatisticalType_same name st m out
          b).toSameRecord
  | updateStats =>
      exact hDescribes.of_same
        (SameSamples.updateStats b).toSameRecord

/- The window is that of the history. -/
structure Follows
    (b : ResultBuffer)
    (h : History) : Prop where
  size : b.size = h.size
  holds : Represents b h.kept
  count_le : h.count ≤ h.samples.length
  count_pos : h.samples ≠ [] → 1 ≤ h.count
  describes : Describes b h.samples

namespace Follows

variable {b : ResultBuffer}
variable {h : History}

theorem length_kept
    (hFollows : Follows b h) :
    h.kept.length = h.count := by
  have hCount := hFollows.count_le
  rw [History.kept, length_lastN]
  omega

/- A call that only publishes. -/
theorem of_same
    {b' : ResultBuffer}
    (hFollows : Follows b h)
    (hSame : SameSamples b b') :
    Follows b' h where
  size := hSame.size.trans hFollows.size
  holds := hFollows.holds.of_same hSame.toSameWindow
  count_le := hFollows.count_le
  count_pos := hFollows.count_pos
  describes := hFollows.describes.of_same hSame.toSameRecord

/- What is kept of one more sample. -/
theorem kept_newSample
    (m : HostMeasure)
    (out : Surroundings)
    (x : ℚ) :
    (h.after (.newSample m out x)).kept =
      lastN h.size (h.kept ++ [x]) := by
  change lastN (min h.size (h.count + 1)) (h.samples ++ [x]) =
    lastN h.size (lastN h.count h.samples ++ [x])
  rw [← lastN_concat, lastN_lastN]

/- A new buffer. -/
theorem new
    {s : Nat}
    (pname : String)
    (m : HostMeasure)
    (hSize : 1 ≤ s) :
    Follows (ResultBuffer.new s pname m) (.initial s) where
  size := rfl
  holds := Represents.init m hSize
  count_le := Nat.le_refl _
  count_pos := fun hSome => absurd rfl hSome
  describes := Describes.init m _

/- One call keeps the window that of the history. -/
theorem perform
    (hFollows : Follows b h)
    {call : BufferCall}
    (hRoom : call.LeavesRoom) :
    Follows (b.perform call) (h.after call) := by
  have hSize := hFollows.size
  have hPositive : 1 ≤ b.size :=
    Nat.lt_of_le_of_lt (Nat.zero_le _) hFollows.holds.pos_lt
  have hCountLe := hFollows.count_le
  cases call with
  | newSample m out x =>
      have hAdded : Follows (b.addSample (some x))
          (h.after (.newSample m out x)) := by
        constructor
        case size => exact (addSample_size b _).trans hSize
        case holds =>
          rw [kept_newSample, ← hSize]
          exact hFollows.holds.addSample x
        case count_le =>
          change min h.size (h.count + 1) ≤
            (h.samples ++ [x]).length
          rw [List.length_append, List.length_singleton]
          omega
        case count_pos =>
          intro _
          change 1 ≤ min h.size (h.count + 1)
          omega
        case describes => exact hFollows.describes.addSample x
      exact hAdded.of_same (newSample_same m out _ b)
  | resizeBuffer s memory =>
      have hRoom : 1 ≤ s := hRoom
      constructor
      case size => exact (resizeBuffer_same s memory b).2
      case holds =>
        have hHolds :=
          hFollows.holds.resizeBuffer s memory hRoom
        rw [History.kept, lastN_lastN] at hHolds
        exact hHolds
      case count_le =>
        change min s h.count ≤ h.samples.length
        omega
      case count_pos =>
        intro hSome
        have hBefore := hFollows.count_pos hSome
        change 1 ≤ min s h.count
        omega
      case describes => exact hFollows.describes.perform _
  | init m =>
      exact
        { size := hSize
          holds := Represents.init m hPositive
          count_le := Nat.zero_le _
          count_pos := fun hSome => absurd rfl hSome
          describes := Describes.init m b }
  | publishResults m out =>
      exact hFollows.of_same
        (SameSamples.publishResults m out b)
  | setPublishStatisticalType name st m out =>
      exact hFollows.of_same
        (setPublishStatisticalType_same name st m out b)
  | updateStats =>
      exact hFollows.of_same (SameSamples.updateStats b)

/- Every interleaving of calls. -/
theorem foldl_perform
    {calls : List BufferCall}
    (hFollows : Follows b h)
    (hRoom : ∀ call ∈ calls, call.LeavesRoom) :
    Follows (calls.foldl ResultBuffer.perform b)
      (calls.foldl History.after h) := by
  induction calls generalizing b h with
  | nil => exact hFollows
  | cons call calls ih =>
      have hFirst := hRoom call (List.mem_cons_self ..)
      exact ih (hFollows.perform hFirst)
        (fun c hIn => hRoom c (List.mem_cons_of_mem _ hIn))

/- The last sample is in the window. -/
theorem exists_last
    (hFollows : Follows b h)
    (hSome : h.samples ≠ []) :
    ∃ x ∈ h.kept, b.stats .last = some x := by
  refine ⟨h.samples.getLast hSome, ?_, ?_⟩
  · have hCount := hFollows.count_pos hSome
    have hKept : h.kept ≠ [] := by
      apply List.ne_nil_of_length_pos
      rw [hFollows.length_kept]
      omega
    have hSuffix := lastN_suffix h.count h.samples
    rw [← hSuffix.getLast hKept]
    exact List.getLast_mem hKept
  · rw [hFollows.describes.last hSome,
      List.getLast?_eq_getLast_of_ne_nil hSome]

end Follows

------------------------------------------------------------
-- Exactness
------------------------------------------------------------

/- After a run, the record is that of the samples. -/
theorem Describes.foldl_perform
    {b : ResultBuffer}
    {h : History}
    {calls : List BufferCall}
    (hDescribes : Describes b h.samples) :
    Describes (calls.foldl ResultBuffer.perform b)
      (calls.foldl History.after h).samples := by
  induction calls generalizing b h with
  | nil => exact hDescribes
  | cons call calls ih => exact ih (hDescribes.perform call)

/-
  The sum, the mean and the unbiased variance of all samples
  since the last initialisation, whatever happened to the
  window in between.
-/
theorem recursive_statistics_exact
    (b : ResultBuffer)
    (m : HostMeasure)
    (calls : List BufferCall)
    (hSome :
      (calls.foldl History.after
        (.initial b.size)).samples ≠ []) :
    let xs :=
      (calls.foldl History.after (.initial b.size)).samples
    let final := calls.foldl perform (b.init m)
    final.stats .sum = some xs.sum ∧
      final.stats .avg = some (mean xs) ∧
      (1 < xs.length →
        final.stats .var = some (variance xs)) ∧
      (xs.length = 1 → final.stats .var = some 0) := by
  intro xs final
  have hDescribes : Describes final xs :=
    (Describes.init m b).foldl_perform
  refine ⟨hDescribes.sum.eq_some hSome, ?_, ?_, ?_⟩
  · rcases hDescribes.avg with hMean | ⟨hNone, -⟩
    · exact hMean
    · exact absurd hNone hSome
  · exact fun _ => hDescribes.var hSome
  · intro hOne
    rcases List.length_eq_one_iff.mp hOne with ⟨x, hSingle⟩
    rw [hDescribes.var hSome, hSingle, variance_singleton]

/- A measure that publishes by time. -/
def hostSample : HostMeasure where
  status := .running
  flags := packet
  publishingPktTimeBased := 1
  publishingRate := 120
  publishingTimeSpread := 0
  publishingNewAll := 0
  initNanZero := 0

def surroundingsSample : Surroundings where
  random := 0
  now := 1
  localString := true
  dstString := true
  repoClient := false

/- Five samples, with a smaller window in between. -/
def callsSample : List BufferCall :=
  [.newSample hostSample surroundingsSample 1,
    .newSample hostSample surroundingsSample 4,
    .newSample hostSample surroundingsSample 7,
    .resizeBuffer 2 (fun _ => none),
    .newSample hostSample surroundingsSample 2,
    .publishResults hostSample surroundingsSample,
    .resizeBuffer 3 (fun _ => some 5),
    .newSample hostSample surroundingsSample 9]

theorem recursive_statistics_sample :
    let final :=
      callsSample.foldl perform
        ((new 3 "loss" hostSample).init hostSample)
    final.stats .sum = some 23 ∧
      final.stats .avg = some (23 / 5) ∧
      final.stats .var = some (113 / 10) := by
  have hExact :=
    recursive_statistics_exact (new 3 "loss" hostSample)
      hostSample callsSample (by simp [callsSample, History.after])
  have hSamples :
      (callsSample.foldl History.after
        (.initial (new 3 "loss" hostSample).size)).samples =
        [1, 4, 7, 2, 9] := by
    rfl
  rw [hSamples] at hExact
  rcases hExact with ⟨hSum, hAvg, hVar, -⟩
  refine ⟨?_, ?_, ?_⟩
  · rw [hSum]
    norm_num
  · rw [hAvg]
    norm_num [mean]
  · rw [hVar (by simp)]
    norm_num [variance, squares, mean]

/-
  The window holds the last samples it has kept, and its
  statistics are theirs, after any interleaving of samples,
  resizes, initialisations and publications.
-/
theorem window_statistics_exact
    (s : Nat)
    (pname : String)
    (m : HostMeasure)
    (calls : List BufferCall)
    (hSize : 1 ≤ s)
    (hRoom : ∀ call ∈ calls, call.LeavesRoom)
    (hSome :
      (calls.foldl History.after (.initial s)).samples ≠ []) :
    let h := calls.foldl History.after (.initial s)
    let final := calls.foldl perform (new s pname m)
    final.nSamples = h.count ∧
      h.kept.length = h.count ∧
      (∀ i, 1 ≤ i → i ≤ h.count →
        final.cell (wrapped final.size (final.pos - i)) =
          h.kept[h.count - i]?) ∧
      Summarised final.updateStats h.kept := by
  intro h final
  have hFollows : Follows final h :=
    (Follows.new pname m hSize).foldl_perform hRoom
  have hLength := hFollows.length_kept
  rcases hFollows.exists_last hSome with ⟨x, hIn, hLast⟩
  refine ⟨hFollows.holds.count.trans hLength, hLength, ?_,
    hFollows.holds.updateStats hIn hLast⟩
  intro i hFirst hBack
  rw [← hLength]
  exact hFollows.holds.cell_wrapped hFirst (by omega)

theorem window_statistics_sample :
    let final :=
      callsSample.foldl perform (new 3 "loss" hostSample)
    final.nSamples = 3 ∧
      final.updateStats.stats .winSum = some 18 ∧
      final.updateStats.stats .winAvg = some 6 ∧
      final.updateStats.stats .winVar = some 13 := by
  have hExact :=
    window_statistics_exact 3 "loss" hostSample callsSample
      (by decide)
      (by simp [callsSample, BufferCall.LeavesRoom])
      (by simp [callsSample, History.after])
  have hKept :
      (callsSample.foldl History.after (.initial 3)).kept =
        [7, 2, 9] := by
    rfl
  rcases hExact with ⟨hCount, hLength, -, hStats⟩
  rw [hKept] at hLength hStats
  refine ⟨hCount.trans hLength.symm, ?_, ?_, ?_⟩
  · rw [hStats.winSum]
    norm_num
  · rw [hStats.winAvg]
    norm_num [mean]
  · rw [hStats.winVar (by simp)]
    norm_num [variance, squares, mean]

end ResultBuffer

end MONL

end NapaBaselibs
