import Mathlib.Data.List.Basic
import Mathlib.Tactic.Ring

/-!
# Fixed-size blocks and stateful block transducers

A byte string is cut into consecutive blocks of `n` bytes (`blocks`), and a mode of
operation is a transducer: a step function that maps a chaining state and a block to
the next state and an output block (`transduce`).  Running a transducer over a
concatenation is running it over the first part and then, from the state reached,
over the second (`transduce_append`): this is what makes a mode streamable.

`Streamed` is the state of a streaming front end that has been fed `fed` so far, has
released the transduction of a whole number of blocks and holds the rest back, always
keeping the last `retained` complete blocks.  `Streamed.feed` is its step rule.
-/

set_option autoImplicit false

namespace Pkcs11rs.Library

variable {n : ℕ}

section Blocks

variable {α : Type}

/-- The first `k` blocks of `n` elements of `l`. -/
def blocksAux (n : ℕ) : ℕ → List α → List (List α)
  | 0, _ => []
  | k + 1, l => l.take n :: blocksAux n k (l.drop n)

/-- The complete blocks of `n` elements of `l`; a shorter tail is left out. -/
def blocks (n : ℕ) (l : List α) : List (List α) := blocksAux n (l.length / n) l

section

variable (n : ℕ)

/-- No blocks. -/
@[simp] theorem blocks_nil : blocks n ([] : List α) = [] := by
  simp [blocks, blocksAux]

/-- What follows the blocks does not matter. -/
theorem blocksAux_append (k : ℕ) (l rest : List α) (h : k * n ≤ l.length) :
    blocksAux n k (l ++ rest) = blocksAux n k l := by
  induction k generalizing l with
  | zero => rfl
  | succ k ih =>
    have hn : n ≤ l.length := by
      have : (k + 1) * n = k * n + n := by ring
      omega
    simp only [blocksAux, List.take_append_of_le_length hn, List.drop_append_of_le_length hn]
    rw [ih]
    have : (k + 1) * n = k * n + n := by ring
    simp only [List.length_drop]
    omega

/-- Blocks in two parts. -/
theorem blocksAux_add (j k : ℕ) (l : List α) :
    blocksAux n (j + k) l = blocksAux n j l ++ blocksAux n k (l.drop (j * n)) := by
  induction j generalizing l with
  | zero => simp [blocksAux]
  | succ j ih =>
    rw [show j + 1 + k = (j + k) + 1 by omega]
    simp only [blocksAux, ih, List.cons_append, List.drop_drop]
    rw [show n + j * n = (j + 1) * n by ring]

/-- The length of a block. -/
theorem length_of_mem_blocksAux (k : ℕ) (l : List α) (h : k * n ≤ l.length) :
    ∀ b ∈ blocksAux n k l, b.length = n := by
  induction k generalizing l with
  | zero => simp [blocksAux]
  | succ k ih =>
    have hk : (k + 1) * n = k * n + n := by ring
    intro b hb
    simp only [blocksAux, List.mem_cons] at hb
    rcases hb with rfl | hb
    · simp only [List.length_take]; omega
    · exact ih (l.drop n) (by simp only [List.length_drop]; omega) b hb

/-- Every block has the block length. -/
theorem length_of_mem_blocks (l : List α) : ∀ b ∈ blocks n l, b.length = n :=
  length_of_mem_blocksAux n (l.length / n) l (Nat.div_mul_le_self _ _)

/-- The blocks are the beginning. -/
theorem flatten_blocksAux (k : ℕ) (l : List α) : (blocksAux n k l).flatten = l.take (k * n) := by
  induction k generalizing l with
  | zero => simp [blocksAux]
  | succ k ih =>
    simp only [blocksAux, List.flatten_cons, ih]
    rw [show (k + 1) * n = n + k * n by ring, List.take_add]

/-- The blocks of a string of whole blocks make it up again. -/
theorem flatten_blocks (l : List α) (h : n ∣ l.length) : (blocks n l).flatten = l := by
  rw [blocks, flatten_blocksAux, Nat.div_mul_cancel h, List.take_length]

/-- Cutting a concatenation whose first part is whole blocks cuts the parts. -/
theorem blocks_append (hn : 0 < n) (a b : List α) (h : n ∣ a.length) :
    blocks n (a ++ b) = blocks n a ++ blocks n b := by
  obtain ⟨k, hk⟩ := h
  simp [List.length_append, Nat.mul_add_div, Nat.mul_comm, blocks, blocksAux_add, blocksAux_append,
    *]

/-- A string of exactly one block is that block. -/
theorem blocks_single (hn : 0 < n) (l : List α) (h : l.length = n) : blocks n l = [l] := by
  rw [blocks, h, Nat.div_self hn]
  simp only [blocksAux]
  rw [List.take_of_length_le h.le]

/-- The number of blocks. -/
theorem length_blocks (l : List α) : (blocks n l).length = l.length / n := by
  have aux : ∀ (k : ℕ) (l : List α), (blocksAux n k l).length = k := by
    intro k
    induction k with
    | zero => intro l; rfl
    | succ k ih => intro l; simp [blocksAux, ih]
  exact aux _ _

/-- Equal blocks joined: their number times their length. -/
theorem length_flatten_blocks (bs : List (List α)) (h : ∀ b ∈ bs, b.length = n) :
    bs.flatten.length = bs.length * n := by
  induction bs with
  | nil => simp
  | cons b bs ih =>
    have hb : b.length = n := h b (by simp)
    have hrest := ih (fun x hx => h x (by simp [hx]))
    simp only [List.flatten_cons, List.length_append, hb, hrest, List.length_cons]
    ring

/-- The last of equal blocks is what is left of their join after all the others. -/
theorem drop_flatten_blocks (bs : List (List α)) (b : List α) (hb : b.length = n) :
    (bs ++ [b]).flatten.drop ((bs ++ [b]).flatten.length - n) = b := by simp [*]

end

/-- Consecutive pieces of `n` elements; the last one may be shorter. -/
def chunks (n : ℕ) (l : List α) : List (List α) :=
  blocks n l ++ if l.length % n = 0 then [] else [l.drop (l.length / n * n)]

/-- The chunks are everything. -/
@[simp] theorem flatten_chunks (n : ℕ) (l : List α) : (chunks n l).flatten = l := by
  grind [chunks, blocks, flatten_blocksAux, Nat.div_mul_cancel, Nat.dvd_of_mod_eq_zero,
    List.take_append_drop]

/-- The length of a chunk. -/
theorem length_of_mem_chunks (hn : 0 < n) {l c : List α} (hc : c ∈ chunks n l) :
    0 < c.length ∧ c.length ≤ n := by
  rcases List.mem_append.mp hc with hblock | htail
  · have hlength := length_of_mem_blocks n l c hblock
    omega
  · split at htail
    · cases htail
    · rw [List.mem_singleton.mp htail, List.length_drop]
      have hdiv := Nat.div_add_mod' l.length n
      have hlt := Nat.mod_lt l.length hn
      omega

/-- The pieces of whole blocks are whole blocks. -/
theorem dvd_length_of_mem_chunks {m : ℕ} (hn : m ∣ n) {l c : List α} (hl : m ∣ l.length)
    (hc : c ∈ chunks n l) : m ∣ c.length := by
  grind [chunks, length_of_mem_blocks, List.mem_singleton, List.length_drop, Nat.dvd_sub]

/-- A longer list has two chunks. -/
theorem two_le_length_chunks (hn : 0 < n) {l : List α} (h : n < l.length) :
    2 ≤ (chunks n l).length := by
  unfold chunks
  rw [List.length_append, length_blocks]
  have hdiv := Nat.div_add_mod' l.length n
  have hone : 1 ≤ l.length / n := (Nat.one_le_div_iff hn).mpr h.le
  grind [List.length_nil]

end Blocks

section Transducers

variable {σ β γ : Type}

/-- Run a stateful step over a list: the state reached and the outputs. -/
def transduce (step : σ → β → σ × γ) : σ → List β → σ × List γ
  | s, [] => (s, [])
  | s, b :: bs =>
    let r := step s b
    let rest := transduce step r.1 bs
    (rest.1, r.2 :: rest.2)

section

variable (step : σ → β → σ × γ)

/-- No blocks. -/
@[simp] theorem transduce_nil (s : σ) : transduce step s [] = (s, []) := rfl

/-- The first block. -/
@[simp] theorem transduce_cons (s : σ) (b : β) (bs : List β) : transduce step s (b :: bs) =
      ((transduce step (step s b).1 bs).1, (step s b).2 :: (transduce step (step s b).1 bs).2) := rfl

/-- A transducer runs over a concatenation part by part. -/
theorem transduce_append (s : σ) (xs ys : List β) : transduce step s (xs ++ ys) =
      ((transduce step (transduce step s xs).1 ys).1,
        (transduce step s xs).2 ++ (transduce step (transduce step s xs).1 ys).2) := by
  induction xs generalizing s with
  | nil => simp
  | cons b bs ih => simp [ih]

/-- One output for a block. -/
@[simp] theorem length_transduce (s : σ) (xs : List β) :
    (transduce step s xs).2.length = xs.length := by
  induction xs generalizing s with
  | nil => rfl
  | cons b bs ih => simp [ih]

/-- A property kept by every step holds of every output and of the final state. -/
theorem transduce_invariant (I : σ → Prop) (P : β → Prop) (Q : γ → Prop)
    (h : ∀ s b, I s → P b → I (step s b).1 ∧ Q (step s b).2) (s : σ) (xs : List β) (hs : I s)
    (hxs : ∀ b ∈ xs, P b) : I (transduce step s xs).1 ∧ ∀ c ∈ (transduce step s xs).2, Q c := by
  induction xs generalizing s with
  | nil => exact ⟨hs, by simp⟩
  | cons b bs ih =>
    obtain ⟨hI, hQ⟩ := h s b hs (hxs b (by simp))
    obtain ⟨hI', hQ'⟩ := ih (step s b).1 hI (fun c hc => hxs c (by simp [hc]))
    refine ⟨by simpa using hI', ?_⟩
    intro c hc
    simp only [transduce_cons, List.mem_cons] at hc
    rcases hc with rfl | hc
    · exact hQ
    · exact hQ' c hc

end

end Transducers

section Streaming

variable {σ α : Type}

/-- How many of `len` elements a front end that keeps back the last `retained` complete
blocks has released. -/
def released (n retained len : ℕ) : ℕ := (len / n - retained) * n

/-- What is released has come. -/
theorem released_le (n retained len : ℕ) : released n retained len ≤ len :=
  (Nat.mul_le_mul_right _ (Nat.sub_le _ _)).trans (Nat.div_mul_le_self _ _)

/-- What is held back is short. -/
theorem sub_released_lt (hn : 0 < n) (retained len : ℕ) :
    len - released n retained len < (retained + 1) * n := by
  have hdiv := Nat.div_add_mod len n
  have hmod := Nat.mod_lt len hn
  rw [released, Nat.sub_mul, Nat.add_mul, Nat.one_mul]
  rw [Nat.mul_comm] at hdiv
  omega

/-- Whole blocks are released. -/
theorem dvd_released (n retained len : ℕ) : n ∣ released n retained len :=
  Dvd.intro_left _ rfl

/-- Feeding `more` elements releases whole blocks of what was held back and of the new
input together. -/
theorem released_add (n retained len more : ℕ) (hn : 0 < n) : released n retained (len + more) =
      released n retained len + released n retained (len - released n retained len + more) := by
  unfold released
  set q := len / n - retained with hq
  have hle : q * n ≤ len := released_le n retained len
  have hdiv : (len + more) / n = q + (len - q * n + more) / n := by
    rw [show len + more = n * q + (len - q * n + more) by rw [Nat.mul_comm n q]; omega,
      Nat.mul_add_div hn]
  rw [hdiv, ← Nat.add_mul]
  congr 1
  -- Either nothing was released before, or the retained blocks are still held back.
  rcases Nat.eq_zero_or_pos q with h0 | hpos
  · omega
  · have hheld : retained ≤ (len - q * n + more) / n := by
      rw [Nat.le_div_iff_mul_le hn]
      have h1 : retained + q = len / n := by omega
      have h2 : (retained + q) * n ≤ len := by rw [h1]; exact Nat.div_mul_le_self _ _
      rw [Nat.add_mul] at h2
      omega
    omega

/-- A streaming front end that was fed `fed`: it has released `out`, the transduction of
the blocks it let through, has reached the chaining state `s` and holds back `pending`. -/
structure Streamed (n retained : ℕ) (step : σ → List α → σ × List α) (s₀ : σ) (fed : List α)
    (s : σ) (pending out : List α) : Prop where
  pending_eq : pending = fed.drop (released n retained fed.length)
  state_eq : s = (transduce step s₀ (blocks n (fed.take (released n retained fed.length)))).1
  out_eq : out =
    (transduce step s₀ (blocks n (fed.take (released n retained fed.length)))).2.flatten

namespace Streamed

variable {n retained : ℕ} {step : σ → List α → σ × List α} {s₀ s : σ} {fed pending out : List α}

/-- Nothing fed yet. -/
theorem init (n retained : ℕ) (step : σ → List α → σ × List α) (s₀ : σ) :
    Streamed n retained step s₀ [] s₀ [] [] := by
  refine ⟨?_, ?_, ?_⟩ <;> simp

/-- What is pending has been held back. -/
theorem length_pending (h : Streamed n retained step s₀ fed s pending out) :
    pending.length = fed.length - released n retained fed.length := by
  rw [h.pending_eq, List.length_drop]

/-- What has been released are whole blocks. -/
theorem take_dvd (n retained : ℕ) (fed : List α) :
    n ∣ (fed.take (released n retained fed.length)).length := by
  rw [List.length_take, Nat.min_eq_left (released_le _ _ _)]
  exact dvd_released _ _ _

/-- **The step rule**: feeding a chunk transduces the whole blocks of what is held back
together with the chunk, except the retained ones, and holds back the rest. -/
theorem feed (hn : 0 < n) (h : Streamed n retained step s₀ fed s pending out) (chunk : List α) :
    Streamed n retained step s₀ (fed ++ chunk)
      (transduce step s (blocks n ((pending ++ chunk).take (released n retained (pending ++ chunk).length)))).1
      ((pending ++ chunk).drop (released n retained (pending ++ chunk).length))
      (out ++ (transduce step s (blocks n ((pending ++ chunk).take
        (released n retained (pending ++ chunk).length)))).2.flatten) := by
  set p := released n retained fed.length with hp
  set p' := released n retained (pending ++ chunk).length with hp'
  have hple : p ≤ fed.length := released_le _ _ _
  have hall : released n retained (fed ++ chunk).length = p + p' := by
    rw [List.length_append, released_add _ _ _ _ hn, hp', List.length_append, h.length_pending]
  have hsplit : fed ++ chunk = fed.take p ++ (pending ++ chunk) := by
    rw [h.pending_eq, ← List.append_assoc, List.take_append_drop]
  have htake : (fed ++ chunk).take (p + p') = fed.take p ++ (pending ++ chunk).take p' := by
    grind [List.take_append]
  have hdrop : (fed ++ chunk).drop (p + p') = (pending ++ chunk).drop p' := by
    simp_all [List.drop_append]
  have hblocks : blocks n ((fed ++ chunk).take (p + p')) =
      blocks n (fed.take p) ++ blocks n ((pending ++ chunk).take p') := by
    rw [htake, blocks_append n hn _ _ (take_dvd n retained fed)]
  refine ⟨?_, ?_, ?_⟩
  · rw [hall, hdrop]
  · rw [hall, hblocks, transduce_append, ← h.state_eq]
  · rw [hall, hblocks, transduce_append, ← h.state_eq, List.flatten_append, ← h.out_eq]

/-- What was released followed by the transduction of what is held back is the
transduction of everything fed, for any common tail. -/
theorem complete (hn : 0 < n) (h : Streamed n retained step s₀ fed s pending out) (tail : List α) :
    (transduce step s₀ (blocks n (fed ++ tail))).2.flatten =
      out ++ (transduce step s (blocks n (pending ++ tail))).2.flatten := by
  have hsplit : fed ++ tail = fed.take (released n retained fed.length) ++ (pending ++ tail) := by
    rw [h.pending_eq, ← List.append_assoc, List.take_append_drop]
  rw [hsplit, blocks_append n hn _ _ (take_dvd n retained fed), transduce_append,
    List.flatten_append, ← h.state_eq, ← h.out_eq]

end Streamed

end Streaming

end Pkcs11rs.Library
