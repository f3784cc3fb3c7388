import StreamOtter.Machine
import Mathlib.Algebra.Order.Field.Rat
import Mathlib.Tactic.Linarith
import Mathlib.Tactic.Ring
import Mathlib.Data.List.Infix

/-!
# The token bucket

A translation of `TokenBucket` with exact arithmetic.  Readings of the wall clock are in
milliseconds and may step backward.  A step backward takes tokens away as if they were refilled
over a negative time; as long as that leaves none owed, the bucket stays within its bounds.
-/

namespace StreamOtter

/-- What a bucket is built with. -/
structure BucketLimits where
  ratePerSecond : ℚ
  capacity : ℚ
  ratePositive : 0 < ratePerSecond
  capacityPositive : 0 < capacity

structure TokenBucket where
  limits : BucketLimits
  tokens : ℚ
  /-- The latest reading. -/
  updated : ℚ

namespace TokenBucket

/-- A full bucket. -/
def new (limits : BucketLimits) (now : ℚ) : TokenBucket := ⟨limits, limits.capacity, now⟩

/-- The tokens after refilling for the elapsed time. -/
def refilled (now : ℚ) (b : TokenBucket) : ℚ :=
  min b.limits.capacity (b.tokens + (now - b.updated) / 1000 * b.limits.ratePerSecond)

def take (now : ℚ) (b : TokenBucket) : TokenBucket × Bool :=
  let b := { b with
    tokens := b.refilled now
    updated := now }
  if b.tokens < 1 then (b, false) else ({ b with tokens := b.tokens - 1 }, true)

/-- The tokens pay for a step backward of the clock. -/
def Affords (b : TokenBucket) (now : ℚ) : Prop :=
  0 ≤ b.tokens + (now - b.updated) / 1000 * b.limits.ratePerSecond

/-- A bucket whose `take` is called at the readings of a clock. -/
def machine : Machine TokenBucket ℚ where
  step := fun b now => (b.take now).1
  allowed := fun _ _ => True

/-- The readings that the tokens pay for. -/
def affordingMachine : Machine TokenBucket ℚ where
  step := fun b now => (b.take now).1
  allowed := Affords

/-- How many calls succeed. -/
def succeeded (b : TokenBucket) : List ℚ → ℕ
  | [] => 0
  | now :: readings => (b.take now).1.succeeded readings + if (b.take now).2 then 1 else 0

def Within (b : TokenBucket) : Prop := 0 ≤ b.tokens ∧ b.tokens ≤ b.limits.capacity

variable {b : TokenBucket} {now : ℚ}

theorem limits_take : (b.take now).1.limits = b.limits := by
  unfold take
  dsimp only
  split <;> rfl

theorem updated_take : (b.take now).1.updated = now := by
  unfold take
  dsimp only
  split <;> rfl

theorem tokens_take :
    (b.take now).1.tokens = b.refilled now - if (b.take now).2 then 1 else 0 := by
  unfold take
  dsimp only
  split
  · exact (sub_zero _).symm
  · rfl

theorem take_succeeds : (b.take now).2 = true ↔ 1 ≤ b.refilled now := by
  unfold take
  dsimp only
  split
  · case isTrue hless => simpa using hless
  · case isFalse hmore => simpa using hmore

theorem refilled_le : b.refilled now ≤ b.limits.capacity := min_le_left _ _

theorem tokens_take_le : (b.take now).1.tokens ≤ b.limits.capacity := by
  rw [tokens_take]
  have hle : b.refilled now ≤ b.limits.capacity := refilled_le
  split_ifs <;> linarith

/-- Exactly the readings that the tokens pay for leave none owed. -/
theorem tokens_take_nonneg_iff : 0 ≤ (b.take now).1.tokens ↔ b.Affords now := by
  have hcapacity := b.limits.capacityPositive
  have hrefilled : 0 ≤ b.refilled now ↔ b.Affords now := by
    unfold refilled Affords
    rw [le_min_iff]
    exact ⟨And.right, fun h => ⟨hcapacity.le, h⟩⟩
  rw [← hrefilled, tokens_take]
  split_ifs with htaken
  · have hone := take_succeeds.mp htaken
    constructor
    · intro _
      linarith
    · intro _
      linarith
  · rw [sub_zero]

/-- Who waits for one token's time has a token. -/
theorem Within.recovers (h : b.Within) (hroom : 1 ≤ b.limits.capacity) {wait : ℚ}
    (hwait : 1 / b.limits.ratePerSecond ≤ wait) :
    (b.take (b.updated + 1000 * wait)).2 = true := by
  have hrate := b.limits.ratePositive
  have hrefill : 1 ≤ wait * b.limits.ratePerSecond := (div_le_iff₀ hrate).mp hwait
  have helapsed : (b.updated + 1000 * wait - b.updated) / 1000 = wait := by ring
  have hnone := h.1
  rw [take_succeeds, refilled, helapsed, le_min_iff]
  exact ⟨hroom, by linarith⟩

theorem refilled_le_elapsed :
    b.refilled now ≤ b.tokens + (now - b.updated) / 1000 * b.limits.ratePerSecond :=
  min_le_right _ _

/-- The last reading after a first one. -/
def latest (first : ℚ) (rest : List ℚ) : ℚ := (first :: rest).getLast (List.cons_ne_nil _ _)

theorem latest_cons (first second : ℚ) (rest : List ℚ) :
    latest first (second :: rest) = latest second rest :=
  List.getLast_cons_cons

theorem le_latest {first : ℚ} {rest : List ℚ} (hsorted : (first :: rest).Pairwise (· ≤ ·)) :
    first ≤ latest first rest := by
  rcases List.mem_cons.mp (List.getLast_mem (List.cons_ne_nil first rest)) with hsame | hlater
  · exact le_of_eq hsame.symm
  · exact (List.pairwise_cons.mp hsorted).1 _ hlater

/-- Over readings that do not decrease, what succeeds is paid for by the tokens and the refill. -/
theorem succeeded_le {readings : List ℚ} (hsorted : (b.updated :: readings).Pairwise (· ≤ ·)) :
    b.succeeded readings = 0 ∨ (b.succeeded readings : ℚ) ≤ b.tokens +
      (latest b.updated readings - b.updated) / 1000 * b.limits.ratePerSecond := by
  induction readings generalizing b with
  | nil => exact .inl rfl
  | cons now rest ih =>
      have hrate := b.limits.ratePositive
      obtain ⟨-, hrest⟩ := List.pairwise_cons.mp hsorted
      have hsorted' : ((b.take now).1.updated :: rest).Pairwise (· ≤ ·) := by
        rw [updated_take]
        exact hrest
      have hrefilled : b.refilled now ≤ b.tokens + (now - b.updated) / 1000 * b.limits.ratePerSecond :=
        refilled_le_elapsed
      have hlater : 0 ≤ (latest now rest - now) / 1000 * b.limits.ratePerSecond :=
        mul_nonneg (div_nonneg (sub_nonneg.mpr (le_latest hrest)) (by norm_num)) hrate.le
      have hsplit : (latest now rest - b.updated) / 1000 * b.limits.ratePerSecond =
          (now - b.updated) / 1000 * b.limits.ratePerSecond +
            (latest now rest - now) / 1000 * b.limits.ratePerSecond := by ring
      have hih := ih hsorted'
      rw [tokens_take, updated_take, limits_take] at hih
      rw [latest_cons, hsplit, succeeded]
      rcases hih with hnone | hpaid
      · rw [hnone]
        split_ifs with htaken
        · have hone := take_succeeds.mp htaken
          right
          push_cast
          linarith
        · exact .inl rfl
      · right
        push_cast
        linarith

/-- A span of readings that do not decrease. -/
theorem succeeded_span_le {first : ℚ} {rest : List ℚ} (hsorted : (first :: rest).Pairwise (· ≤ ·)) :
    (b.succeeded (first :: rest) : ℚ) ≤
      b.limits.capacity + b.limits.ratePerSecond * ((latest first rest - first) / 1000) := by
  have hrate := b.limits.ratePositive
  have hsorted' : ((b.take first).1.updated :: rest).Pairwise (· ≤ ·) := by
    rw [updated_take]
    exact hsorted
  have hcapacity : b.refilled first ≤ b.limits.capacity := refilled_le
  have hpositive := b.limits.capacityPositive
  have hlater : 0 ≤ b.limits.ratePerSecond * ((latest first rest - first) / 1000) :=
    mul_nonneg hrate.le (div_nonneg (sub_nonneg.mpr (le_latest hsorted)) (by norm_num))
  have hpaid := succeeded_le hsorted'
  rw [tokens_take, updated_take, limits_take, mul_comm _ b.limits.ratePerSecond] at hpaid
  rw [succeeded]
  rcases hpaid with hnone | hpaid
  · rw [hnone]
    split_ifs with htaken
    · have hone := take_succeeds.mp htaken
      push_cast
      linarith
    · push_cast
      linarith
  · push_cast
    linarith

/-- The bounds of a bucket over a run of calls. -/
structure Bounded (b : TokenBucket) (readings : List ℚ) : Prop where
  within : ∀ earlier, earlier <+: readings → (machine.after b earlier).Within
  /-- Who waits for one token's time after the latest reading can take again. -/
  recovers : ∀ earlier, earlier <+: readings → 1 ≤ b.limits.capacity →
    ∀ wait, 1 / b.limits.ratePerSecond ≤ wait →
      ((machine.after b earlier).take ((machine.after b earlier).updated + 1000 * wait)).2 = true
  /-- At most the capacity and the refill is taken where readings do not decrease. -/
  spans : ∀ earlier first rest later, readings = earlier ++ first :: rest ++ later →
    (first :: rest).Pairwise (· ≤ ·) →
      ((machine.after b earlier).succeeded (first :: rest) : ℚ) ≤
        b.limits.capacity + b.limits.ratePerSecond * ((latest first rest - first) / 1000)

theorem limits_after (readings : List ℚ) : (machine.after b readings).limits = b.limits := by
  induction readings generalizing b with
  | nil => rfl
  | cons now rest ih => exact ih.trans limits_take

/-- The tokens stay within their bounds exactly when they pay for every step of the clock. -/
theorem within_iff_admits (h : b.Within) (readings : List ℚ) :
    (∀ earlier, earlier <+: readings → (machine.after b earlier).Within) ↔
      affordingMachine.Admits b readings := by
  induction readings generalizing b with
  | nil =>
      refine ⟨fun _ => trivial, fun _ earlier hearlier => ?_⟩
      rw [List.prefix_nil.mp hearlier]
      exact h
  | cons now rest ih =>
      have hupper : (b.take now).1.tokens ≤ (b.take now).1.limits.capacity := by
        rw [limits_take]
        exact tokens_take_le
      constructor
      · intro hall
        have hnext : (b.take now).1.Within := hall [now] ⟨rest, rfl⟩
        refine ⟨tokens_take_nonneg_iff.mp hnext.1, (ih hnext).mp ?_⟩
        intro earlier hearlier
        exact hall (now :: earlier) (List.prefix_cons_inj now |>.mpr hearlier)
      · rintro ⟨hafford, hadmits⟩ earlier hearlier
        have hnext : (b.take now).1.Within := ⟨tokens_take_nonneg_iff.mpr hafford, hupper⟩
        cases earlier with
        | nil => exact h
        | cons now' earlier =>
            obtain ⟨hsame, hrest⟩ := List.cons_prefix_cons.mp hearlier
            subst hsame
            exact (ih hnext).mpr hadmits earlier hrest

section Sample

/-- Two tokens, one a second. -/
def sampleBucketLimits : BucketLimits := ⟨1, 2, by norm_num, by norm_num⟩

end Sample

end TokenBucket

end StreamOtter
