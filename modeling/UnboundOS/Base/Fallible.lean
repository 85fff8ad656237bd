import UnboundOS.Base.Checked

/-!
Stateful code that returns `Result<_, &'static str>`: it may fail with a
message, after which the state keeps what was written before the failure, and
it may panic. `exec` runs such code on a state; callers reason about a
sequence through `exec_bind` and never through the monad transformers.
-/

namespace UnboundOS

abbrev Fallible (σ α : Type) := ExceptT String (StateT σ Option) α

namespace Fallible

variable {σ α β : Type}

/-- Run on a state: `none` is a panic, an error keeps the state reached. -/
def exec (action : Fallible σ α) (state : σ) : Checked (Except String α × σ) :=
  action.run.run state

/-- Read a part of the state. -/
def read (view : σ → α) : Fallible σ α := do
  return view (← get)

/-- Update the state; the update itself may panic and may return a value. -/
def update (change : σ → Checked (α × σ)) : Fallible σ α :=
  ExceptT.lift (StateT.mk change)

def write (change : σ → σ) : Fallible σ Unit :=
  modify change

/-- A computation that does not touch the state but may panic. -/
def checked (value : Checked α) : Fallible σ α :=
  update fun state => value.map (·, state)

/-- Go on whether the action fails or not. -/
def attempt (action : Fallible σ α) : Fallible σ Unit :=
  ExceptT.mk (action.run >>= fun _ => pure (.ok ()))

@[simp] theorem exec_pure (value : α) (state : σ) :
    exec (pure value) state = some (.ok value, state) := rfl

@[simp] theorem exec_throw (message : String) (state : σ) :
    exec (throw message : Fallible σ α) state = some (.error message, state) := rfl

@[simp] theorem exec_read (view : σ → α) (state : σ) :
    exec (read view) state = some (.ok (view state), state) := rfl

@[simp] theorem exec_write (change : σ → σ) (state : σ) :
    exec (write change) state = some (.ok (), change state) := rfl

theorem exec_update {change : σ → Checked (α × σ)} {state next : σ} {value : α}
    (hchange : change state = some (value, next)) :
    exec (update change) state = some (.ok value, next) := by
  simp [exec, update, ExceptT.lift, ExceptT.run, ExceptT.mk, StateT.run, StateT.mk, hchange,
    Functor.map, StateT.map]

theorem exec_checked {value : Checked α} {result : α} (hvalue : value = some result) (state : σ) :
    exec (checked value) state = some (.ok result, state) :=
  exec_update (by rw [hvalue]; rfl)

theorem exec_attempt {action : Fallible σ α} {state next : σ} {result : Except String α}
    (haction : exec action state = some (result, next)) :
    exec (attempt action) state = some (.ok (), next) := by
  have hrun : action.run.run state = some (result, next) := haction
  simp [exec, attempt, hrun]

theorem exec_bind (action : Fallible σ α) (rest : α → Fallible σ β) (state : σ) :
    exec (action >>= rest) state =
      (exec action state).bind fun run =>
        match run.1 with
        | .ok value => exec (rest value) run.2
        | .error message => some (.error message, run.2) := by
  simp only [exec, ExceptT.run_bind, StateT.run_bind]
  cases action.run.run state with
  | none => rfl
  | some run =>
      obtain ⟨result, next⟩ := run
      cases result <;> rfl

/-- A partial value at the head of a sequence. -/
theorem exec_checked_bind (value : Checked α) (rest : α → Fallible σ β) (state : σ) :
    exec (checked value >>= rest) state = value.bind fun result => exec (rest result) state := by
  cases value with
  | none => rfl
  | some result => rfl

theorem exec_bind_ok {action : Fallible σ α} {state next : σ} {value : α}
    (haction : exec action state = some (.ok value, next)) (rest : α → Fallible σ β) :
    exec (action >>= rest) state = exec (rest value) next := by
  rw [exec_bind, haction]
  rfl

theorem exec_bind_error {action : Fallible σ α} {state next : σ} {message : String}
    (haction : exec action state = some (.error message, next)) (rest : α → Fallible σ β) :
    exec (action >>= rest) state = some (.error message, next) := by
  rw [exec_bind, haction]
  rfl

/-- How a sequence returns: its first half fails, or its second half returns. -/
theorem exec_bind_cases {action : Fallible σ α} {rest : α → Fallible σ β} {state final : σ}
    {result : Except String β} (hexec : exec (action >>= rest) state = some (result, final)) :
    (∃ message, result = .error message ∧ exec action state = some (.error message, final)) ∨
      ∃ value next, exec action state = some (.ok value, next) ∧
        exec (rest value) next = some (result, final) := by
  rw [exec_bind] at hexec
  obtain ⟨⟨first, next⟩, haction, hrest⟩ := Option.bind_eq_some_iff.mp hexec
  cases first with
  | error message =>
      cases hrest
      exact Or.inl ⟨message, rfl, haction⟩
  | ok value => exact Or.inr ⟨value, next, haction, hrest⟩

/-- A sequence succeeds if both halves do. -/
theorem exec_bind_success {action : Fallible σ α} {rest : α → Fallible σ β} {state final : σ}
    {result : β} (hexec : exec (action >>= rest) state = some (.ok result, final)) :
    ∃ value next, exec action state = some (.ok value, next) ∧
      exec (rest value) next = some (.ok result, final) := by
  rcases exec_bind_cases hexec with ⟨_, hfail, _⟩ | hsuccess
  · cases hfail
  · exact hsuccess

/-- A sequence that returns has a first half that does. -/
theorem exec_bind_returns {action : Fallible σ α} {rest : α → Fallible σ β} {state final : σ}
    {result : Except String β} (hexec : exec (action >>= rest) state = some (result, final)) :
    ∃ value next, exec action state = some (value, next) := by
  rcases exec_bind_cases hexec with ⟨_, _, hfail⟩ | ⟨_, _, hsuccess, _⟩
  · exact ⟨_, _, hfail⟩
  · exact ⟨_, _, hsuccess⟩

theorem exec_update_panic {change : σ → Checked (α × σ)} {state : σ}
    (hchange : change state = none) : exec (update change) state = none := by
  simp [exec, update, ExceptT.lift, ExceptT.run, ExceptT.mk, StateT.run, StateT.mk, hchange,
    Functor.map, StateT.map]

/-- How a partial step returns: its function is defined there. -/
theorem exec_update_cases {change : σ → Checked (α × σ)} {state next : σ}
    {result : Except String α} (hexec : exec (update change) state = some (result, next)) :
    ∃ value, result = .ok value ∧ change state = some (value, next) := by
  cases hchange : change state with
  | none =>
      rw [exec_update_panic hchange] at hexec
      cases hexec
  | some pair =>
      rw [exec_update hchange] at hexec
      cases hexec
      exact ⟨pair.1, rfl, rfl⟩

theorem exec_checked_cases {value : Checked α} {state next : σ} {result : Except String α}
    (hexec : exec (checked value) state = some (result, next)) :
    ∃ found, result = .ok found ∧ value = some found ∧ next = state := by
  obtain ⟨found, hresult, hfound⟩ := exec_update_cases hexec
  obtain ⟨_, hvalue, hpair⟩ := Option.map_eq_some_iff.mp hfound
  cases hpair
  exact ⟨found, hresult, hvalue, rfl⟩

theorem exec_bind_panic {action : Fallible σ α} {state : σ} (haction : exec action state = none)
    (rest : α → Fallible σ β) : exec (action >>= rest) state = none := by
  rw [exec_bind, haction]
  rfl

section Loop

/-- `while address < limit { body(address)?; address += stride }`. -/
def strideDo (stride : U64) (hstride : 0 < stride.toNat) (limit : U64)
    (body : U64 → Fallible σ Unit) (address : U64) : Fallible σ Unit :=
  if hless : address < limit then do
    body address
    match hnext : checkedAdd address stride with
    | none => update fun _ => none
    | some successor => strideDo stride hstride limit body successor
  else pure ()
termination_by limit.toNat - address.toNat
decreasing_by
  have hsum := checkedAdd_toNat hnext
  have hlimit : address.toNat < limit.toNat := hless
  omega

/-- The addresses at which the body of that loop returned `Ok`, in order. -/
def strideDone (stride : U64) (hstride : 0 < stride.toNat) (limit : U64)
    (body : U64 → Fallible σ Unit) (address : U64) (state : σ) : List U64 :=
  if hless : address < limit then
    match exec (body address) state with
    | some (.ok (), next) =>
        match hnext : checkedAdd address stride with
        | none => [address]
        | some successor => address :: strideDone stride hstride limit body successor next
    | _ => []
  else []
termination_by limit.toNat - address.toNat
decreasing_by
  have hsum := checkedAdd_toNat hnext
  have hlimit : address.toNat < limit.toNat := hless
  omega

variable {stride limit : U64} {hstride : 0 < stride.toNat} {body : U64 → Fallible σ Unit}
  {address successor : U64}

theorem strideDo_step (hless : address < limit)
    (hnext : checkedAdd address stride = some successor) :
    strideDo stride hstride limit body address =
      body address >>= fun _ => strideDo stride hstride limit body successor := by
  rw [strideDo, dif_pos hless]
  congr 1
  funext _
  split
  next hnone =>
    rw [hnext] at hnone
    cases hnone
  next other hsome =>
    rw [hnext] at hsome
    cases hsome
    rfl

theorem strideDone_step {state next : σ} (hless : address < limit)
    (hnext : checkedAdd address stride = some successor)
    (hbody : exec (body address) state = some (.ok (), next)) :
    strideDone stride hstride limit body address state =
      address :: strideDone stride hstride limit body successor next := by
  rw [strideDone, dif_pos hless, hbody]
  simp only
  split
  next hnone =>
    rw [hnext] at hnone
    cases hnone
  next other hsome =>
    rw [hnext] at hsome
    cases hsome
    rfl

/-- Below a limit that is a multiple of the stride, one more stride fits. -/
theorem stride_room (hlimit : stride.toNat ∣ limit.toNat) (haddress : stride.toNat ∣ address.toNat)
    (hless : address < limit) :
    checkedAdd address stride = some (address + stride) ∧
      stride.toNat ∣ (address + stride).toNat ∧ address + stride ≤ limit ∧
      (address + stride).toNat = address.toNat + stride.toNat := by
  have hlt : address.toNat < limit.toNat := hless
  have hroom : address.toNat + stride.toNat ≤ limit.toNat := by
    obtain ⟨k, hk⟩ := haddress
    obtain ⟨m, hm⟩ := hlimit
    rw [hk, hm] at hlt ⊢
    exact Nat.mul_le_mul_left stride.toNat (Nat.lt_of_mul_lt_mul_left hlt)
  have hbound := limit.isLt
  have hadd := checkedAdd_eq_some (a := address) (b := stride) (by omega)
  have hsum := checkedAdd_toNat hadd
  refine ⟨hadd, ?_, ?_, hsum⟩
  · rw [hsum]
    exact Nat.dvd_add haddress (dvd_refl _)
  · change (address + stride).toNat ≤ limit.toNat
    rw [hsum]
    exact hroom

/-- Induction rule for the loop. The invariant sees the addresses done so far
and holds wherever the loop stops; the loop does not panic. -/
theorem strideDo_rule (invariant : List U64 → σ → Prop) (hlimit : stride.toNat ∣ limit.toNat)
    (hbody : ∀ done state address, invariant done state →
      (∃ message next, exec (body address) state = some (.error message, next) ∧
        invariant done next) ∨
      ∃ next, exec (body address) state = some (.ok (), next) ∧
        invariant (done ++ [address]) next)
    (haddress : stride.toNat ∣ address.toNat) {done : List U64} {state : σ}
    (hstate : invariant done state) :
    ∃ result final, exec (strideDo stride hstride limit body address) state =
        some (result, final) ∧
      invariant (done ++ strideDone stride hstride limit body address state) final := by
  induction hgap : limit.toNat - address.toNat using Nat.strongRecOn
    generalizing address done state with
  | ind gap ih =>
      by_cases hless : address < limit
      swap
      · rw [strideDo, strideDone, dif_neg hless, dif_neg hless, List.append_nil]
        exact ⟨.ok (), state, rfl, hstate⟩
      have hlt : address.toNat < limit.toNat := hless
      obtain ⟨hnextAddress, hdvd, _, hsum⟩ := stride_room hlimit haddress hless
      rcases hbody done state address hstate with
        ⟨message, next, hfail, hnext⟩ | ⟨next, hok, hnext⟩
      · refine ⟨.error message, next, ?_, ?_⟩
        · rw [strideDo_step hless hnextAddress, exec_bind_error hfail]
        · rw [strideDone, dif_pos hless, hfail, List.append_nil]
          exact hnext
      · rw [strideDo_step hless hnextAddress, strideDone_step hless hnextAddress hok,
          exec_bind_ok hok, List.append_cons]
        exact ih (limit.toNat - (address + stride).toNat) (by omega) hdvd hnext rfl

/-- A loop that returns `Ok` has done every multiple of the stride from its
start to its limit. -/
theorem mem_strideDone_of_ok (hlimit : stride.toNat ∣ limit.toNat)
    (haddress : stride.toNat ∣ address.toNat) {state final : σ}
    (hexec : exec (strideDo stride hstride limit body address) state = some (.ok (), final))
    (done : U64) :
    done ∈ strideDone stride hstride limit body address state ↔
      address ≤ done ∧ done < limit ∧ stride.toNat ∣ done.toNat := by
  induction hgap : limit.toNat - address.toNat using Nat.strongRecOn
    generalizing address state with
  | ind gap ih =>
      by_cases hless : address < limit
      swap
      · rw [strideDone, dif_neg hless]
        simp only [List.not_mem_nil, false_iff, not_and]
        intro hle hbelow
        exact absurd (BitVec.lt_def.mpr (Nat.lt_of_le_of_lt hle hbelow)) hless
      have hlt : address.toNat < limit.toNat := hless
      have hpositive : 0 < stride.toNat := hstride
      obtain ⟨hnextAddress, hdvd, _, hsum⟩ := stride_room hlimit haddress hless
      rw [strideDo_step hless hnextAddress] at hexec
      obtain ⟨_, next, hok, hrest⟩ := exec_bind_success hexec
      rw [strideDone_step hless hnextAddress hok, List.mem_cons,
        ih (limit.toNat - (address + stride).toNat) (by omega) hdvd hrest rfl]
      constructor
      · rintro (rfl | ⟨hle, hbelow, hmultiple⟩)
        · exact ⟨BitVec.le_refl _, hless, haddress⟩
        · have hle' : (address + stride).toNat ≤ done.toNat := hle
          exact ⟨BitVec.le_def.mpr (by omega), hbelow, hmultiple⟩
      · rintro ⟨hle, hbelow, hmultiple⟩
        have hle' : address.toNat ≤ done.toNat := hle
        rcases Nat.eq_or_lt_of_le hle' with hsame | hgreater
        · exact Or.inl (BitVec.eq_of_toNat_eq hsame.symm)
        · right
          refine ⟨BitVec.le_def.mpr ?_, hbelow, hmultiple⟩
          rw [hsum]
          -- The next multiple after `address` is one stride away.
          obtain ⟨k, hk⟩ := haddress
          obtain ⟨m, hm⟩ := hmultiple
          rw [hk, hm] at hgreater ⊢
          exact Nat.mul_le_mul_left stride.toNat (Nat.lt_of_mul_lt_mul_left hgreater)

/-- What the body shows wherever it returns `Ok` holds of all addresses done. -/
theorem strideDone_shows {shows : U64 → Prop}
    (hbody : ∀ address state next, exec (body address) state = some (.ok (), next) → shows address)
    (address : U64) (state : σ) :
    ∀ done ∈ strideDone stride hstride limit body address state, shows done := by
  fun_induction strideDone stride hstride limit body address state with
  | case1 address state hless next hexec hnext =>
      simpa using hbody address state next hexec
  | case2 address state hless next hexec successor hnext ih =>
      intro done hdone
      rcases List.mem_cons.mp hdone with rfl | hlater
      · exact hbody done state next hexec
      · exact ih done hlater
  | case3 => simp
  | case4 => simp

/-- A loop whose body never fails reaches its limit. -/
theorem strideDo_ok (invariant : U64 → σ → Prop) (hlimit : stride.toNat ∣ limit.toNat)
    (hbody : ∀ address state, address < limit → stride.toNat ∣ address.toNat →
      invariant address state →
      ∃ next, exec (body address) state = some (.ok (), next) ∧ invariant (address + stride) next)
    (haddress : stride.toNat ∣ address.toNat) (hle : address ≤ limit) {state : σ}
    (hstate : invariant address state) :
    ∃ final, exec (strideDo stride hstride limit body address) state = some (.ok (), final) ∧
      invariant limit final := by
  induction hgap : limit.toNat - address.toNat using Nat.strongRecOn
    generalizing address state with
  | ind gap ih =>
      by_cases hless : address < limit
      swap
      · obtain rfl : address = limit := BitVec.le_antisymm hle (BitVec.not_lt.mp hless)
        rw [strideDo, dif_neg hless]
        exact ⟨state, rfl, hstate⟩
      have hlt : address.toNat < limit.toNat := hless
      have hstridePos : 0 < stride.toNat := hstride
      obtain ⟨hnextAddress, hdvd, hnextLe, hsum⟩ := stride_room hlimit haddress hless
      obtain ⟨next, hok, hnext⟩ := hbody address state hless haddress hstate
      rw [strideDo_step hless hnextAddress, exec_bind_ok hok]
      exact ih (limit.toNat - (address + stride).toNat) (by omega) hdvd hnextLe hnext rfl

end Loop

end Fallible

end UnboundOS
