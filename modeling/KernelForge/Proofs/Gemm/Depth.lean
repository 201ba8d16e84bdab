import KernelForge.Proofs.Gemm.Phases

/-!
The depth of the product, summed in slices of eight. What is loaded straight from device memory ends with a
whole block; the rest goes through staging blocks, of which the last is filled up with zeros to a multiple of
eight. Counted in slices the blocks follow each other without a gap, and together they are exactly the slices
of the recurrence.
-/

namespace KernelForge.Gemm.Launch

variable {α : Type} [Register α] {launch : Launch α} {place : Place} {tiles : List (Tile α)}

open Register

/-- One slice in all tiles, whatever the factors are read from. -/
theorem multiplyStep_tiled {left right : Nat → Nat → Except Failure α} (depth index : Nat)
    (tiled : launch.Tiled place (fun row column => launch.accumulated row column index) tiles)
    (readsLeft : ∀ row column, launch.Active place row column → ∀ step < 8,
      ∃ value, left row (depth + step) = .ok value ∧ (launch.Inside place row column →
        round (launch.kernel.register .a) value = launch.leftFactor (place.shiftedRow + row) (8 * index + step)))
    (readsRight : ∀ row column, launch.Active place row column → ∀ step < 8,
      ∃ value, right (depth + step) column = .ok value ∧ (launch.Inside place row column →
        round (launch.kernel.register .b) value =
          launch.rightFactor (8 * index + step) (place.shiftedColumn + column))) :
    ∃ next, tiles.mapM (launch.multiplyStep left right depth) = .ok next ∧
      launch.Tiled place (fun row column => launch.accumulated row column (index + 1)) next := by
  refine tiled.update ?_
  intro row column entry active known
  -- The partial sum is known only inside the product, but its terms can be read everywhere.
  obtain ⟨sum, summed, right⟩ := foldlM_range (fun held step => do
      let first ← left row (depth + step)
      let second ← right (depth + step) column
      return held + round (launch.kernel.register .a) first * round (launch.kernel.register .b) second)
    (fun count held => launch.Inside place row column → held = (List.range count).foldl (fun sum step =>
      sum + launch.leftFactor (place.shiftedRow + row) (8 * index + step) *
        launch.rightFactor (8 * index + step) (place.shiftedColumn + column)) Scalar.zero) 8
    (by
      intro step below held partialSum
      obtain ⟨first, readFirst, firstRight⟩ := readsLeft row column active step below
      obtain ⟨second, readSecond, secondRight⟩ := readsRight row column active step below
      rw [readFirst, ok_bind, readSecond, ok_bind]
      refine ⟨_, rfl, fun inside => ?_⟩
      rw [List.range_succ, List.foldl_append, ← partialSum inside, firstRight inside, secondRight inside]
      rfl)
    Scalar.zero (fun _ => rfl)
  rw [summed, ok_bind]
  refine ⟨_, rfl, fun inside => ?_⟩
  rw [known inside, right inside]
  rfl

omit [Register α] in
/-- The depth that is loaded directly is made of whole blocks, and there is one only where no tile leaves the
    product. -/
theorem directDepth_cases (launch : Launch α) :
    launch.directDepth = 0 ∨ launch.directDepth = launch.k - launch.k % launch.groupK ∧
      launch.groupM ≤ launch.m ∧ launch.groupN ≤ launch.n := by
  unfold directDepth
  split
  · exact .inl rfl
  · rename_i large
    simp only [Bool.or_eq_true, decide_eq_true_eq, not_or, Nat.not_lt] at large
    exact .inr ⟨rfl, large.1.2, large.2⟩

omit [Register α] in
theorem groupK_dvd_directDepth (launch : Launch α) : launch.groupK ∣ launch.directDepth := by
  rcases launch.directDepth_cases with zero | ⟨whole, -, -⟩
  · exact zero ▸ Nat.dvd_zero _
  · exact whole ▸ Nat.dvd_sub_mod _

omit [Register α] in
theorem directDepth_le (launch : Launch α) : launch.directDepth ≤ launch.k := by
  rcases launch.directDepth_cases with zero | ⟨whole, -, -⟩ <;> omega

theorem lt_of_lt_stepCount {extent step index : Nat} (positive : 0 < step) (below : index < stepCount extent step) :
    index * step < extent :=
  mul_lt_of_lt_ceil positive below

theorem le_stepCount_mul {extent step : Nat} (positive : 0 < step) : extent ≤ stepCount extent step * step :=
  le_ceil_mul positive

theorem div_lt_stepCount {extent step index : Nat} (positive : 0 < step) (below : index < extent) :
    index / step < stepCount extent step := by
  rw [Nat.div_lt_iff_lt_mul positive]
  exact Nat.lt_of_lt_of_le below (le_stepCount_mul positive)

theorem stepCount_eight_of_dvd {extent : Nat} (whole : 8 ∣ extent) : stepCount extent 8 = extent / 8 := by
  unfold stepCount
  omega

theorem leftFactor_of_lt {row depth : Nat} (below : depth < launch.k) :
    launch.leftFactor row depth =
      round (launch.kernel.register .a) (round (launch.kernel.memory .a) (launch.entry .a row depth)) := by
  simp [leftFactor, below]

theorem rightFactor_of_lt {depth column : Nat} (below : depth < launch.k) :
    launch.rightFactor depth column =
      round (launch.kernel.register .b) (round (launch.kernel.memory .b) (launch.entry .b depth column)) := by
  simp [rightFactor, below]

/-- The slices that are loaded straight from device memory. -/
theorem multiplyDirect_tiled (ready : launch.Ready) (placed : launch.Placed place)
    (tiled : launch.Tiled place launch.biased tiles) :
    ∃ next, launch.multiplyDirect place tiles = .ok next ∧
      launch.Tiled place (fun row column => launch.accumulated row column (launch.directDepth / 8)) next := by
  have whole : 8 ∣ launch.directDepth := Nat.dvd_trans ready.regular.depth launch.groupK_dvd_directDepth
  rw [← stepCount_eight_of_dvd whole]
  refine foldlM_range _ (fun index held =>
    launch.Tiled place (fun row column => launch.accumulated row column index) held) _ ?_ tiles tiled
  intro index below held tiled
  rw [stepCount_eight_of_dvd whole] at below
  have inDepth : ∀ step < 8, 8 * index + step < launch.k := by
    intro step small
    have := launch.directDepth_le
    omega
  obtain ⟨-, tall, wide⟩ := launch.directDepth_cases.resolve_left (by omega)
  refine multiplyStep_tiled (8 * index) index tiled ?_ ?_
  · intro row column active step small
    have inside := placed.inside tall wide active
    refine ⟨_, load_ok ready .a inside.1 (inDepth step small), fun _ => ?_⟩
    rw [leftFactor_of_lt (inDepth step small)]
  · intro row column active step small
    have inside := placed.inside tall wide active
    refine ⟨_, load_ok ready .b (inDepth step small) inside.2, fun _ => ?_⟩
    rw [rightFactor_of_lt (inDepth step small)]

omit [Register α] in
/-- The last block of the depth has the depth that is left for it. -/
theorem lastDepth_eq (ready : launch.Ready) {depth : Nat} (aligned : launch.groupK ∣ depth)
    (begins : depth < launch.k) (last : launch.k ≤ depth + launch.groupK) :
    launch.lastDepth = launch.k - depth := by
  obtain ⟨index, rfl⟩ := aligned
  have positive : 0 < launch.groupK := ready.regular.block_k
  have split := Nat.div_add_mod launch.k launch.groupK
  have rest := Nat.mod_lt launch.k positive
  have upper : launch.groupK * index < launch.groupK * (launch.k / launch.groupK + 1) := by
    rw [Nat.mul_succ]
    omega
  have indexLe : index ≤ launch.k / launch.groupK := Nat.le_of_lt_succ (Nat.lt_of_mul_lt_mul_left upper)
  unfold lastDepth
  by_cases whole : launch.k % launch.groupK = 0
  · have lower : launch.groupK * index < launch.groupK * (launch.k / launch.groupK) := by omega
    have next : launch.groupK * (index + 1) ≤ launch.groupK * (launch.k / launch.groupK) :=
      Nat.mul_le_mul_left _ (Nat.lt_of_mul_lt_mul_left lower)
    rw [Nat.mul_succ] at next
    rw [if_pos whole]
    omega
  · have lower : launch.groupK * (launch.k / launch.groupK) < launch.groupK * (index + 1) := by
      rw [Nat.mul_succ]
      omega
    have equal : index = launch.k / launch.groupK := by
      have := Nat.lt_of_mul_lt_mul_left lower
      omega
    rw [if_neg whole, equal]
    omega

omit [Register α] in
/-- A block of the depth is copied as far as it is summed, in whole slices, and the slices of the next block
    follow. -/
theorem paddedDepth_spec (ready : launch.Ready) {depth : Nat} (aligned : launch.groupK ∣ depth)
    (begins : depth < launch.k) :
    (if depth + launch.groupK < launch.k then launch.groupK else launch.lastPaddedDepth) =
        min launch.groupK (launch.k + launch.lastPaddedDepth - launch.lastDepth - depth) ∧
      8 ∣ min launch.groupK (launch.k + launch.lastPaddedDepth - launch.lastDepth - depth) ∧
      depth / 8 + min launch.groupK (launch.k + launch.lastPaddedDepth - launch.lastDepth - depth) / 8 =
        min (stepCount launch.k 8) ((depth + launch.groupK) / 8) := by
  have whole : 8 ∣ launch.groupK := ready.regular.depth
  have wholeDepth : 8 ∣ depth := Nat.dvd_trans whole aligned
  have padded : launch.lastDepth ≤ launch.lastPaddedDepth := by
    unfold lastPaddedDepth
    omega
  by_cases more : depth + launch.groupK < launch.k
  · have full : min launch.groupK (launch.k + launch.lastPaddedDepth - launch.lastDepth - depth) =
        launch.groupK := by omega
    rw [if_pos more, full]
    refine ⟨rfl, whole, ?_⟩
    unfold stepCount
    omega
  · have left := lastDepth_eq ready aligned begins (Nat.not_lt.mp more)
    have short : launch.lastPaddedDepth ≤ launch.groupK := by
      unfold lastPaddedDepth
      omega
    have rest : min launch.groupK (launch.k + launch.lastPaddedDepth - launch.lastDepth - depth) =
        launch.lastPaddedDepth := by omega
    rw [if_neg more, rest]
    refine ⟨rfl, ?_, ?_⟩
    · exact Nat.dvd_mul_left 8 _
    · unfold lastPaddedDepth stepCount
      omega

variable [LawfulRounding α]

/-- A factor is what its staged copy holds, rounded to its register. -/
theorem leftFactor_staged (launch : Launch α) (row depth : Nat) :
    launch.leftFactor row depth = round (launch.kernel.register .a)
      (if depth < launch.k then round (launch.kernel.memory .a) (launch.entry .a row depth)
        else Scalar.zero) := by
  unfold leftFactor
  split
  · rfl
  · rw [LawfulRounding.round_zero]

theorem rightFactor_staged (launch : Launch α) (depth column : Nat) :
    launch.rightFactor depth column = round (launch.kernel.register .b)
      (if depth < launch.k then round (launch.kernel.memory .b) (launch.entry .b depth column)
        else Scalar.zero) := by
  unfold rightFactor
  split
  · rfl
  · rw [LawfulRounding.round_zero]

/-- Staging blocks of the right size. -/
def Sized (launch : Launch α) (stage : Stage α) : Prop :=
  stage.a.size = launch.stagedSize .a ∧ stage.b.size = launch.stagedSize .b

omit [LawfulRounding α] in
/-- After the copy the staging blocks hold the factors at a depth, as far as they lie inside the product. -/
theorem copyFactors_ok (ready : launch.Ready) (place : Place) (depth : Nat) {stage : Stage α}
    (sized : launch.Sized stage) :
    ∃ next, launch.copyFactors place depth stage = .ok next ∧ launch.Sized next ∧
      ∀ step < min launch.groupK (launch.k + launch.lastPaddedDepth - launch.lastDepth - depth),
        (∀ row < min launch.groupM (launch.m - place.shiftedRow),
          next.a[launch.staged .a row step]? = some (if depth + step < launch.k then
            round (launch.kernel.memory .a) (launch.entry .a (place.shiftedRow + row) (depth + step))
            else Scalar.zero)) ∧
        ∀ column < min launch.groupN (launch.n - place.shiftedColumn),
          next.b[launch.staged .b step column]? = some (if depth + step < launch.k then
            round (launch.kernel.memory .b) (launch.entry .b (depth + step) (place.shiftedColumn + column))
            else Scalar.zero) := by
  obtain ⟨a, copiedA, sizeA, contentA⟩ := copy_staged ready.regular .a
    (Nat.min_le_left launch.groupM (launch.m - place.shiftedRow))
    (Nat.min_le_left launch.groupK (launch.k + launch.lastPaddedDepth - launch.lastDepth - depth))
    (fun row step =>
      if step < min launch.groupK (launch.k - depth) then launch.load .a (place.shiftedRow + row) (depth + step)
      else .ok Scalar.zero)
    (fun row step => if depth + step < launch.k then
      round (launch.kernel.memory .a) (launch.entry .a (place.shiftedRow + row) (depth + step))
      else Scalar.zero)
    sized.1
    (by
      intro row inRows step inSteps
      -- Behind the depth nothing is loaded: a zero is copied, and of the other factor too.
      by_cases present : depth + step < launch.k
      · have inside : place.shiftedRow + row < launch.m := by omega
        rw [if_pos (by omega), if_pos present]
        exact load_ok ready .a inside present
      · rw [if_neg (by omega), if_neg present])
  obtain ⟨b, copiedB, sizeB, contentB⟩ := copy_staged ready.regular .b
    (Nat.min_le_left launch.groupK (launch.k + launch.lastPaddedDepth - launch.lastDepth - depth))
    (Nat.min_le_left launch.groupN (launch.n - place.shiftedColumn))
    (fun step column =>
      if step < min launch.groupK (launch.k - depth) then
        launch.load .b (depth + step) (place.shiftedColumn + column)
      else .ok Scalar.zero)
    (fun step column => if depth + step < launch.k then
      round (launch.kernel.memory .b) (launch.entry .b (depth + step) (place.shiftedColumn + column))
      else Scalar.zero)
    sized.2
    (by
      intro step inSteps column inColumns
      by_cases present : depth + step < launch.k
      · have inside : place.shiftedColumn + column < launch.n := by omega
        rw [if_pos (by omega), if_pos present]
        exact load_ok ready .b present inside
      · rw [if_neg (by omega), if_neg present])
  refine ⟨⟨a, b⟩, ?_, ⟨sizeA, sizeB⟩, fun step inSteps => ⟨?_, ?_⟩⟩
  · simp only [copyFactors]
    rw [copiedA, ok_bind, copiedB, ok_bind]
    rfl
  · exact fun row inRows => contentA row inRows step inSteps
  · exact fun column inColumns => contentB step inSteps column inColumns

/-- The slices of one staged block of the depth. -/
theorem multiplyBlock_tiled (ready : launch.Ready) {depth : Nat} (aligned : launch.groupK ∣ depth)
    (begins : depth < launch.k) {stage : Stage α} (sized : launch.Sized stage)
    (tiled : launch.Tiled place (fun row column => launch.accumulated row column (depth / 8)) tiles) :
    ∃ next, launch.copyFactors place depth stage = .ok next ∧ launch.Sized next ∧
      ∃ summed, (List.range (stepCount (if depth + launch.groupK < launch.k then launch.groupK
            else launch.lastPaddedDepth) 8)).foldlM (fun tiles step =>
          tiles.mapM (launch.multiplyStep
            (fun row depth => readCell next.a (launch.staged .a row depth))
            (fun depth column => readCell next.b (launch.staged .b depth column)) (8 * step))) tiles =
          .ok summed ∧
        launch.Tiled place (fun row column => launch.accumulated row column
          (min (stepCount launch.k 8) ((depth + launch.groupK) / 8))) summed := by
  obtain ⟨next, copied, sized, content⟩ := copyFactors_ok ready place depth sized
  refine ⟨next, copied, sized, ?_⟩
  obtain ⟨limit, whole, follows⟩ := paddedDepth_spec ready aligned begins
  rw [limit, ← follows, stepCount_eight_of_dvd whole]
  have fits := Nat.min_le_left launch.groupK (launch.k + launch.lastPaddedDepth - launch.lastDepth - depth)
  generalize min launch.groupK (launch.k + launch.lastPaddedDepth - launch.lastDepth - depth) = padded at *
  have slices : 8 ∣ depth := Nat.dvd_trans ready.regular.depth aligned
  refine foldlM_range _ (fun index held =>
    launch.Tiled place (fun row column => launch.accumulated row column (depth / 8 + index)) held) _ ?_ tiles tiled
  intro index below held tiled
  refine multiplyStep_tiled (8 * index) (depth / 8 + index) tiled ?_ ?_
  · intro row column active step small
    obtain ⟨value, found, read⟩ := read_staged (ready.regular.rowLength .a) sized.1 active.1.1
      (show 8 * index + step < launch.groupK by omega)
    refine ⟨value, read, fun inside => ?_⟩
    obtain ⟨inRows, -⟩ := (inside_iff active.1.1 active.2.1).mp inside
    rw [(content (8 * index + step) (by omega)).1 row inRows] at found
    rw [leftFactor_staged, show 8 * (depth / 8 + index) + step = depth + (8 * index + step) by omega,
      Option.some.inj found]
  · intro row column active step small
    obtain ⟨value, found, read⟩ := read_staged (ready.regular.rowLength .b) sized.2
      (show 8 * index + step < launch.groupK by omega) active.2.1
    refine ⟨value, read, fun inside => ?_⟩
    obtain ⟨-, inColumns⟩ := (inside_iff active.1.1 active.2.1).mp inside
    rw [(content (8 * index + step) (by omega)).2 column inColumns] at found
    rw [rightFactor_staged, show 8 * (depth / 8 + index) + step = depth + (8 * index + step) by omega,
      Option.some.inj found]

/-- The slices that go through staging blocks complete the depth. -/
theorem multiplyStaged_tiled (ready : launch.Ready)
    (tiled : launch.Tiled place (fun row column => launch.accumulated row column (launch.directDepth / 8)) tiles) :
    ∃ next, launch.multiplyStaged place tiles = .ok next ∧
      launch.Tiled place (fun row column => launch.accumulated row column (stepCount launch.k 8)) next := by
  have positive : 0 < launch.groupK := ready.regular.block_k
  have start_le := launch.directDepth_le
  have whole : 8 ∣ launch.groupK := ready.regular.depth
  have begins : min (stepCount launch.k 8) (launch.directDepth / 8) = launch.directDepth / 8 := by
    unfold stepCount
    omega
  obtain ⟨⟨summed, stage⟩, run, tiled, -⟩ := foldlM_range
    (fun (held : List (Tile α) × Stage α) index => do
      let depth := launch.directDepth + index * launch.groupK
      let stage ← launch.copyFactors place depth held.2
      let limit := if depth + launch.groupK < launch.k then launch.groupK else launch.lastPaddedDepth
      let summed ← (List.range (stepCount limit 8)).foldlM (fun tiles step =>
        tiles.mapM (launch.multiplyStep
          (fun row depth => readCell stage.a (launch.staged .a row depth))
          (fun depth column => readCell stage.b (launch.staged .b depth column)) (8 * step))) held.1
      return (summed, stage))
    -- The slices of all blocks so far are summed. The last block may end behind the depth, hence the minimum.
    (fun index held => launch.Tiled place (fun row column => launch.accumulated row column
        (min (stepCount launch.k 8) ((launch.directDepth + index * launch.groupK) / 8))) held.1 ∧
      launch.Sized held.2)
    (stepCount (launch.k - launch.directDepth) launch.groupK)
    (by
      rintro index below ⟨held, stage⟩ ⟨tiled, sized⟩
      have aligned : launch.groupK ∣ launch.directDepth + index * launch.groupK :=
        Nat.dvd_add launch.groupK_dvd_directDepth (Nat.dvd_mul_left _ _)
      have inDepth := lt_of_lt_stepCount positive below
      have slices : 8 ∣ launch.directDepth + index * launch.groupK := Nat.dvd_trans whole aligned
      have reached : min (stepCount launch.k 8) ((launch.directDepth + index * launch.groupK) / 8) =
          (launch.directDepth + index * launch.groupK) / 8 := by
        unfold stepCount
        omega
      rw [reached] at tiled
      obtain ⟨next, copied, sized, summed, multiplied, tiled⟩ :=
        multiplyBlock_tiled ready aligned (by omega) sized tiled
      refine ⟨(summed, next), ?_, ?_, sized⟩
      · simp only [copied, ok_bind, multiplied]
        rfl
      · rwa [Nat.succ_mul, ← Nat.add_assoc])
    (tiles, (⟨launch.poisoned .a, launch.poisoned .b⟩ : Stage α))
    ⟨by rwa [Nat.zero_mul, Nat.add_zero, begins], poisoned_size launch .a, poisoned_size launch .b⟩
  refine ⟨summed, ?_, ?_⟩
  · simp only [multiplyStaged]
    rw [run, ok_bind]
    rfl
  · have covered : min (stepCount launch.k 8) ((launch.directDepth +
        stepCount (launch.k - launch.directDepth) launch.groupK * launch.groupK) / 8) = stepCount launch.k 8 := by
      have reach : launch.k - launch.directDepth ≤ _ := le_stepCount_mul positive
      have directSlices : 8 ∣ launch.directDepth := Nat.dvd_trans whole launch.groupK_dvd_directDepth
      have slices : 8 ∣ stepCount (launch.k - launch.directDepth) launch.groupK * launch.groupK :=
        Nat.dvd_trans whole (Nat.dvd_mul_left _ _)
      generalize stepCount (launch.k - launch.directDepth) launch.groupK * launch.groupK = staged at *
      unfold stepCount
      omega
    rwa [covered] at tiled

end KernelForge.Gemm.Launch
