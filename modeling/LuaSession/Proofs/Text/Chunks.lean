import LuaSession.Text.Chunk

/-!
# Chunks cover the text

Chunks begin at the multiples of the step, and a step is no longer than a chunk. So the first step
of every chunk makes up the text, and what follows it in a chunk is how the next one begins.

* `strides_eq`: there is a beginning for every step begun.
* `chunksOrTrap_eq`: every cut is made, and chunks are told by characters.
* `flatten_steps`: nothing is lost and nothing repeated among the first steps.
* `chunks_cover`: all that is said of chunks, for every size and overlap.
-/

namespace LuaSession.Text

/-! ### Where chunks begin -/

theorem chunkStep_pos (size overlap : Int) : 0 < chunkStep size overlap := by
  unfold chunkStep
  omega

/-- As many steps are begun below a number as fit, and one more if something is left. -/
theorem steps_begun {step : Nat} (h : 0 < step) (n : Nat) :
    (n + step - 1) / step = n / step + if n % step = 0 then 0 else 1 := by
  have hdiv := Nat.div_add_mod n step
  have hmod := Nat.mod_lt n h
  rw [Nat.mul_comm] at hdiv
  split
  · rw [Nat.add_zero]
    exact Nat.div_eq_of_lt_le (by omega) (by rw [Nat.succ_mul]; omega)
  · refine Nat.div_eq_of_lt_le ?_ ?_
    · rw [Nat.succ_mul]
      omega
    · rw [Nat.succ_mul, Nat.succ_mul]
      omega

/-- The multiples of the step, one for every step begun. -/
theorem strides_eq {step : Nat} (h : 0 < step) (n : Nat) :
    strides n step = (List.range ((n + step - 1) / step)).map (· * step) := by
  induction n with
  | zero =>
    rw [Nat.zero_add, Nat.div_eq_of_lt (Nat.sub_lt h Nat.zero_lt_one)]
    rfl
  | succ n ih =>
    have hnext : (n + 1 + step - 1) / step = n / step + 1 := by
      rw [Nat.add_right_comm, Nat.add_sub_cancel, Nat.add_div_right n h]
    rw [strides, List.range_succ, List.filter_append, ← strides, ih, hnext, steps_begun h]
    by_cases hzero : n % step = 0
    · have hlast : n / step * step = n := Nat.div_mul_cancel (Nat.dvd_of_mod_eq_zero hzero)
      rw [if_pos hzero, Nat.add_zero, List.range_succ, List.map_append]
      simp [hzero, hlast]
    · rw [if_neg hzero]
      simp [hzero]

theorem lt_of_mem_strides {n step i : Nat} (h : i ∈ strides n step) : i < n :=
  List.mem_range.1 (List.mem_filter.1 h).1

/-! ### Every cut is made -/

theorem numberAt_bounds (s : List Char) {k : Nat} (hk : k ≤ s.length) :
    numberAt (bounds s) k = .ok (offset s k) := by
  have hlength : ((charIndices s).map Prod.fst).length = s.length := by
    rw [List.length_map, length_charIndices]
  have hsome : (bounds s)[k]? = some (offset s k) := by
    rcases Nat.lt_or_eq_of_le hk with hlt | rfl
    · rw [bounds, List.getElem?_append_left (by rw [hlength]; exact hlt), List.getElem?_map,
        getElem?_charIndices, List.getElem?_eq_getElem hlt]
      rfl
    · rw [bounds, List.getElem?_append_right (Nat.le_of_eq hlength), hlength, Nat.sub_self,
        offset_length]
      rfl
  rw [numberAt, hsome]

/-- A computation that succeeds on every entry of a list. -/
theorem mapM_ok {α β : Type} {f : α → Except Trap β} {g : α → β} {l : List α}
    (h : ∀ a ∈ l, f a = .ok (g a)) : l.mapM f = .ok (l.map g) := by
  induction l with
  | nil => rfl
  | cons a l ih =>
    rw [List.mapM_cons, h a List.mem_cons_self, ih fun b hb => h b (List.mem_cons_of_mem a hb)]
    rfl

/-- Chunk `i`: what stands at `i` steps, up to the size. -/
def chunkAt (s : List Char) (size step i : Nat) : List Char :=
  s.extract (i * step) (min (i * step + size) s.length)

/-- The chunks at all steps begun. -/
def chunkRow (s : List Char) (size step : Nat) : List (List Char) :=
  (List.range ((s.length + step - 1) / step)).map (chunkAt s size step)

/-- The chunks of a text whose length is a word. -/
theorem chunksOrTrap_eq {s : List Char} {size overlap : Int} {step : Nat}
    (fits : byteLength s ≤ wordMax) (hsize : 0 < size) (hstep : chunkStep size overlap = step) :
    chunksOrTrap s size overlap = .ok (chunkRow s size.toNat step) := by
  have hcount : difference (bounds s).length 1 = .ok s.length := by
    rw [bounds, List.length_append, List.length_map, length_charIndices]
    exact if_pos (Nat.le_add_left 1 _)
  have hlength := length_le_byteLength s
  have hslice (start : Nat) (hlt : start < s.length) : (do
      let stop := min (saturatingAdd start size.toNat) s.length
      slice s (← numberAt (bounds s) start) (← numberAt (bounds s) stop)) =
      .ok (s.extract start (min (start + size.toNat) s.length)) := by
    have hstop : min (saturatingAdd start size.toNat) s.length =
        min (start + size.toNat) s.length := by
      unfold saturatingAdd
      omega
    dsimp only
    rw [hstop, numberAt_bounds s (Nat.le_of_lt hlt), numberAt_bounds s (Nat.min_le_right _ _)]
    exact slice_offset s (by omega)
  have hpos : 0 < step := hstep ▸ chunkStep_pos size overlap
  rw [chunksOrTrap, if_neg (Int.not_le.2 hsize), hcount, hstep]
  refine (mapM_ok fun start hstart => hslice start (lt_of_mem_strides hstart)).trans ?_
  rw [strides_eq hpos, List.map_map]
  rfl

/-! ### What chunks hold -/

/-- The steps of a text put together are the text as far as they go. -/
theorem flatten_steps (s : List Char) (step count : Nat) :
    ((List.range count).map fun i => (s.drop (i * step)).take step).flatten
      = s.take (count * step) := by
  induction count with
  | zero => rw [Nat.zero_mul, List.take_zero]; rfl
  | succ count ih =>
    rw [List.range_succ, List.map_append, List.flatten_append, ih, Nat.succ_mul, List.take_add]
    simp

/-- A chunk begins with a step. -/
theorem take_chunkAt (s : List Char) {size step : Nat} (h : step ≤ size) (i : Nat) :
    (chunkAt s size step i).take step = (s.drop (i * step)).take step := by
  rw [chunkAt, List.extract_eq_take_drop, List.take_take]
  rcases Nat.le_total (i * step + step) s.length with hle | hle
  · rw [Nat.min_eq_left (by omega)]
  · have hlong : (s.drop (i * step)).length ≤ step := by
      rw [List.length_drop]
      omega
    rw [List.take_of_length_le hlong, List.take_of_length_le]
    rw [List.length_drop]
    omega

/-- What follows the first step of a chunk is how the next one begins. -/
theorem drop_chunkAt_prefix (s : List Char) (size step i : Nat) :
    (chunkAt s size step i).drop step <+: chunkAt s size step (i + 1) := by
  rw [chunkAt, chunkAt, List.extract_eq_take_drop, List.extract_eq_take_drop, List.drop_take,
    List.drop_drop, Nat.succ_mul]
  exact List.take_prefix_take_left (by omega)

theorem length_chunkRow (s : List Char) (size step : Nat) :
    (chunkRow s size step).length = (s.length + step - 1) / step := by
  rw [chunkRow, List.length_map, List.length_range]

theorem eq_chunkAt {s : List Char} {size step i : Nat} {c : List Char}
    (h : (chunkRow s size step)[i]? = some c) : c = chunkAt s size step i := by
  obtain ⟨hi, hc⟩ := List.getElem?_eq_some_iff.1 h
  simpa only [chunkRow, List.getElem_map, List.getElem_range] using hc.symm

/-- A step that is begun has a character. -/
theorem ne_nil_of_mem_chunkRow {s : List Char} {size step : Nat} (hsize : 0 < size)
    (hstep : 0 < step) : ∀ c ∈ chunkRow s size step, c ≠ [] := by
  intro c hc
  obtain ⟨i, hi, rfl⟩ := List.mem_map.1 hc
  have hbegun : (i + 1) * step ≤ s.length + step - 1 :=
    (Nat.le_div_iff_mul_le hstep).1 (List.mem_range.1 hi)
  rw [Nat.succ_mul] at hbegun
  refine List.ne_nil_of_length_pos ?_
  rw [chunkAt, List.extract_eq_take_drop, List.length_take, List.length_drop]
  omega

/-- The first steps of all chunks put together are the text. -/
theorem flatten_chunkRow (s : List Char) {size step : Nat} (hstep : 0 < step) (hle : step ≤ size) :
    ((chunkRow s size step).map (List.take step)).flatten = s := by
  have hlast : s.length ≤ (s.length + step - 1) / step * step := by
    have hdiv := Nat.div_add_mod (s.length + step - 1) step
    have hmod := Nat.mod_lt (s.length + step - 1) hstep
    rw [Nat.mul_comm] at hdiv
    omega
  rw [chunkRow, List.map_map]
  calc ((List.range _).map (List.take step ∘ chunkAt s size step)).flatten
      = ((List.range _).map fun i => (s.drop (i * step)).take step).flatten :=
        congrArg List.flatten (List.map_congr_left fun i _ => take_chunkAt s hle i)
    _ = s.take ((s.length + step - 1) / step * step) := flatten_steps s step _
    _ = s := List.take_of_length_le hlast

/-- Chunks of a positive size: how many there are, which characters each of them holds, and how they
make up the text. Without a positive size there is one chunk. A text in memory fits in as many bytes
as a word counts; that much is needed for an end that saturates to be behind the text. -/
theorem chunks_cover (s : List Char) (size overlap : Int) (fits : byteLength s ≤ wordMax) :
    ∃ cs, chunksOrTrap s size overlap = .ok cs ∧ chunks s size overlap = cs ∧
      (size ≤ 0 → cs = [s]) ∧
      (0 < size → ∀ step : Nat, (step : Int) = max 1 (size - max 0 overlap) →
        cs.length = (s.length + step - 1) / step ∧
        (∀ c ∈ cs, c ≠ []) ∧
        (∀ i c, cs[i]? = some c →
          c = s.extract (i * step) (min (i * step + size.toNat) s.length)) ∧
        (cs.map (List.take step)).flatten = s ∧
        ∀ i c d, cs[i]? = some c → cs[i + 1]? = some d → c.drop step <+: d) := by
  rcases Int.lt_or_le 0 size with hsize | hsize
  · have hok := chunksOrTrap_eq fits hsize (rfl : chunkStep size overlap = _)
    refine ⟨_, hok, by rw [chunks, hok]; rfl, fun h => absurd h (Int.not_le.2 hsize), fun _ => ?_⟩
    intro step hstep
    obtain rfl : step = chunkStep size overlap := by
      unfold chunkStep
      omega
    have hpos := chunkStep_pos size overlap
    refine ⟨length_chunkRow s _ _, ne_nil_of_mem_chunkRow (by omega) hpos, fun i c => eq_chunkAt,
      flatten_chunkRow s hpos (by omega), fun i c d hc hd => ?_⟩
    rw [eq_chunkAt hc, eq_chunkAt hd]
    exact drop_chunkAt_prefix s _ _ i
  · exact ⟨[s], if_pos hsize, by rw [chunks, chunksOrTrap, if_pos hsize]; rfl, fun _ => rfl,
      fun h => absurd h (Int.not_lt.2 hsize)⟩

/-- Eleven characters, two of them of two bytes, in chunks of four that share one. -/
theorem chunks_cover_accented : byteLength "héllo wörld".toList ≤ wordMax ∧
    (chunks "héllo wörld".toList 4 1).length = 4 ∧
    ((chunks "héllo wörld".toList 4 1).map (List.take 3)).flatten = "héllo wörld".toList := by
  have fits : byteLength "héllo wörld".toList ≤ wordMax := by decide
  obtain ⟨cs, -, rfl, -, hcs⟩ := chunks_cover "héllo wörld".toList 4 1 fits
  obtain ⟨hlength, -, -, hflat, -⟩ := hcs (by decide) 3 (by decide)
  exact ⟨fits, hlength, hflat⟩

end LuaSession.Text
