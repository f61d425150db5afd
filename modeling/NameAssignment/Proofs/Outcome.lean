import NameAssignment.Resolution.Log

/-! How a fold that can fail ends. An invariant speaks of the items still to come, the value reached
and, where naming functions are called, the calls made so far. It reaches the end of a fold that
succeeds, and the item at which a fold fails. -/
namespace NameAssignment

variable {α σ ε : Type}

theorem except_bind_ok {first : Except ε α} {next : α → Except ε σ}
    (ran : (first >>= next) = .ok value) :
    ∃ middle, first = .ok middle ∧ next middle = .ok value := by
  cases first with
  | error cause => cases ran
  | ok middle => exact ⟨middle, rfl, ran⟩

theorem except_bind_error {first : Except ε α} {next : α → Except ε σ}
    (failed : (first >>= next) = .error cause) :
    first = .error cause ∨ ∃ middle, first = .ok middle ∧ next middle = .error cause := by
  cases first with
  | error earlier =>
    cases failed
    exact .inl rfl
  | ok middle => exact .inr ⟨middle, rfl, failed⟩

/-- A list made item by item, where an item that passes fits and can give only one result. -/
theorem except_mapM_made {f : α → Except ε σ} {Fits : α → Prop} {make : α → σ} {items : List α}
    {made : List σ} (each : ∀ {item result}, f item = .ok result → Fits item ∧ result = make item)
    (ran : items.mapM f = .ok made) : (∀ item ∈ items, Fits item) ∧ made = items.map make := by
  induction items generalizing made with
  | nil =>
    cases ran
    simp
  | cons item rest ih =>
    rw [List.mapM_cons] at ran
    obtain ⟨first, here, ran⟩ := except_bind_ok ran
    obtain ⟨others, later, ran⟩ := except_bind_ok ran
    cases ran
    obtain ⟨fits, rfl⟩ := each here
    obtain ⟨fit, rfl⟩ := ih later
    exact ⟨List.forall_mem_cons.mpr ⟨fits, fit⟩, rfl⟩

/-- A list is not made because of some item. -/
theorem except_mapM_error {f : α → Except ε σ} {items : List α}
    (failed : items.mapM f = .error cause) : ∃ item ∈ items, f item = .error cause := by
  induction items with
  | nil => cases failed
  | cons item rest ih =>
    rw [List.mapM_cons] at failed
    rcases except_bind_error failed with here | ⟨first, -, failed⟩
    · exact ⟨item, List.mem_cons_self, here⟩
    · rcases except_bind_error failed with later | ⟨others, -, failed⟩
      · obtain ⟨other, inside, gave⟩ := ih later
        exact ⟨other, List.mem_cons_of_mem _ inside, gave⟩
      · cases failed

/-- A success can be computed and looked at. -/
theorem exists_ok_of_any (result : Except ε α) (test : α → Bool)
    (passes : result.toOption.any test = true) :
    ∃ value, result = .ok value ∧ test value = true := by
  cases result with
  | error cause => cases passes
  | ok value => exact ⟨value, rfl, passes⟩

theorem except_foldlM_ok (Holds : List α → σ → Prop) {f : σ → α → Except ε σ}
    (step : ∀ {item rest before after}, Holds (item :: rest) before → f before item = .ok after →
      Holds rest after)
    (start : Holds items before) (ran : items.foldlM f before = .ok after) : Holds [] after := by
  induction items generalizing before with
  | nil =>
    cases ran
    exact start
  | cons item rest ih =>
    rw [List.foldlM_cons] at ran
    obtain ⟨middle, first, later⟩ := except_bind_ok ran
    exact ih (step start first) later

theorem except_foldlM_error (Holds : List α → σ → Prop) {f : σ → α → Except ε σ}
    (step : ∀ {item rest before after}, Holds (item :: rest) before → f before item = .ok after →
      Holds rest after)
    (start : Holds items before) (failed : items.foldlM f before = .error cause) :
    ∃ item rest middle, Holds (item :: rest) middle ∧ f middle item = .error cause := by
  induction items generalizing before with
  | nil => cases failed
  | cons item rest ih =>
    rw [List.foldlM_cons] at failed
    rcases except_bind_error failed with here | ⟨middle, first, later⟩
    · exact ⟨item, rest, before, start, here⟩
    · exact ih (step start first) later

/-- In a fold that succeeds every item passes. -/
theorem except_foldlM_each {f : σ → α → Except ε σ} {items : List α}
    (ran : items.foldlM f before = .ok after) :
    ∀ item ∈ items, ∃ early late, f early item = .ok late := by
  induction items generalizing before with
  | nil => simp
  | cons item rest ih =>
    rw [List.foldlM_cons] at ran
    obtain ⟨middle, first, later⟩ := except_bind_ok ran
    exact List.forall_mem_cons.mpr ⟨⟨before, middle, first⟩, ih later⟩

section Changed
variable {β τ ε' : Type}

/-! What succeeds with another value, or fails with another error. -/

theorem except_bind_map {first : Except ε α} {next : α → Except ε σ} {again : α → Except ε τ}
    {make : σ → τ} (each : ∀ value, again value = (next value).map make) :
    (first >>= again) = (first >>= next).map make := by
  cases first with
  | error cause => rfl
  | ok value => exact each value

theorem except_map_bind {first : Except ε α} {next : α → Except ε σ} {again : β → Except ε τ}
    {change : α → β} {make : σ → τ} (each : ∀ value, again (change value) = (next value).map make) :
    (first.map change >>= again) = (first >>= next).map make := by
  cases first with
  | error cause => rfl
  | ok value => exact each value

theorem except_foldlM_map {f : σ → α → Except ε σ} {g : τ → α → Except ε τ} {make : σ → τ}
    (each : ∀ state item, g (make state) item = (f state item).map make) (start : σ)
    (items : List α) : items.foldlM g (make start) = (items.foldlM f start).map make := by
  induction items generalizing start with
  | nil => rfl
  | cons item rest ih =>
    rw [List.foldlM_cons, List.foldlM_cons, each]
    exact except_map_bind ih

variable (change : ε → ε')

theorem mapError_bind (first : Except ε α) (next : α → Except ε σ) :
    (first >>= next).mapError change =
      first.mapError change >>= fun value => (next value).mapError change := by
  cases first <;> rfl

theorem mapError_map (first : Except ε α) (make : α → σ) :
    (first.map make).mapError change = (first.mapError change).map make := by
  cases first <;> rfl

theorem mapError_foldlM {f : σ → α → Except ε σ} {g : σ → α → Except ε' σ}
    (each : ∀ state item, g state item = (f state item).mapError change) (start : σ)
    (items : List α) : items.foldlM g start = (items.foldlM f start).mapError change := by
  induction items generalizing start with
  | nil => rfl
  | cons item rest ih =>
    rw [List.foldlM_cons, List.foldlM_cons, mapError_bind, each]
    simp only [ih]

end Changed

namespace Logged
variable {β : Type}

theorem calls_pure (value : α) : (pure value : Logged α).calls = [] := rfl

/-- A failure is the end of it. -/
theorem bind_of_error {first : Logged α} {next : α → Logged β}
    (failed : first.result = .error cause) : (first >>= next) = ⟨first.calls, .error cause⟩ := by
  change first.bind next = _
  simp [Logged.bind, failed]

/-- After a success comes what follows, however that ends. -/
theorem bind_of_ok {first : Logged α} {next : α → Logged β} (ran : first.result = .ok value) :
    (first >>= next) = ⟨first.calls ++ (next value).calls, (next value).result⟩ := by
  change first.bind next = _
  simp [Logged.bind, ran]

/-- Success of two parts in a row, with the calls of both. -/
theorem bind_ok {first : Logged α} {next : α → Logged β}
    (ran : (first >>= next).result = .ok value) :
    ∃ middle, first.result = .ok middle ∧ (next middle).result = .ok value ∧
      (first >>= next).calls = first.calls ++ (next middle).calls := by
  obtain ⟨middle, early, late⟩ := result_bind_eq_ok_iff.mp ran
  exact ⟨middle, early, late, by rw [bind_of_ok early]⟩

/-- Failure of two parts in a row is a failure of one of them, after the calls of those before. -/
theorem bind_error {first : Logged α} {next : α → Logged β}
    (failed : (first >>= next).result = .error cause) :
    (first.result = .error cause ∧ (first >>= next).calls = first.calls) ∨
      ∃ middle, first.result = .ok middle ∧ (next middle).result = .error cause ∧
        (first >>= next).calls = first.calls ++ (next middle).calls := by
  cases early : first.result with
  | error earlier =>
    rw [bind_of_error early] at failed ⊢
    cases failed
    exact .inl ⟨rfl, rfl⟩
  | ok middle =>
    rw [bind_of_ok early] at failed ⊢
    exact .inr ⟨middle, rfl, failed, rfl⟩

/-- Putting the result into another form calls nobody. -/
theorem calls_bind_pure (first : Logged α) (make : α → β) :
    (first >>= fun value => pure (make value)).calls = first.calls := by
  cases ended : first.result with
  | error cause => rw [bind_of_error ended]
  | ok value => rw [bind_of_ok ended, calls_pure, List.append_nil]

/-- A fold without calls. -/
theorem foldlM_of (g : σ → α → Except Error σ) (start : σ) (items : List α) :
    items.foldlM (fun state item => of (g state item)) start = of (items.foldlM g start) := by
  induction items generalizing start with
  | nil => rfl
  | cons item rest ih =>
    rw [List.foldlM_cons, List.foldlM_cons]
    cases ran : g start item with
    | error cause => rfl
    | ok next => exact ih next

variable (Holds : List α → σ → List NamingCall → Prop) {f : σ → α → Logged σ}

theorem foldlM_ok (made : List NamingCall)
    (step : ∀ {item rest before after made}, Holds (item :: rest) before made →
      (f before item).result = .ok after → Holds rest after (made ++ (f before item).calls))
    (start : Holds items before made) (ran : (items.foldlM f before).result = .ok after) :
    Holds [] after (made ++ (items.foldlM f before).calls) := by
  induction items generalizing before made with
  | nil =>
    rw [List.foldlM_nil, calls_pure, List.append_nil]
    cases ran
    exact start
  | cons item rest ih =>
    rw [List.foldlM_cons] at ran ⊢
    obtain ⟨middle, first, later, logged⟩ := bind_ok ran
    rw [logged, ← List.append_assoc]
    exact ih _ (step start first) later

theorem foldlM_error (made : List NamingCall)
    (step : ∀ {item rest before after made}, Holds (item :: rest) before made →
      (f before item).result = .ok after → Holds rest after (made ++ (f before item).calls))
    (start : Holds items before made) (failed : (items.foldlM f before).result = .error cause) :
    ∃ item rest middle earlier, Holds (item :: rest) middle earlier ∧
      (f middle item).result = .error cause ∧
      made ++ (items.foldlM f before).calls = earlier ++ (f middle item).calls := by
  induction items generalizing before made with
  | nil => cases failed
  | cons item rest ih =>
    rw [List.foldlM_cons] at failed ⊢
    rcases bind_error failed with ⟨here, logged⟩ | ⟨middle, first, later, logged⟩
    · exact ⟨item, rest, before, made, start, here, by rw [logged]⟩
    · rw [logged, ← List.append_assoc]
      exact ih _ (step start first) later

/-- What holds of the calls up to and with any item holds of the calls of a fold, however it
ends. -/
theorem foldlM_calls {Sound : List NamingCall → Prop} (made : List NamingCall)
    (step : ∀ {item rest before after made}, Holds (item :: rest) before made →
      (f before item).result = .ok after → Holds rest after (made ++ (f before item).calls))
    (each : ∀ {item rest before made}, Holds (item :: rest) before made →
      Sound (made ++ (f before item).calls))
    (ends : ∀ {after made}, Holds [] after made → Sound made)
    (start : Holds items before made) : Sound (made ++ (items.foldlM f before).calls) := by
  cases ended : (items.foldlM f before).result with
  | ok after => exact ends (foldlM_ok Holds made step start ended)
  | error cause =>
    obtain ⟨item, rest, middle, earlier, holds, -, logged⟩ :=
      foldlM_error Holds made step start ended
    rw [logged]
    exact each holds

/-- A second fold follows a first that succeeds, if it can do so item by item. -/
theorem foldlM_follows {τ : Type} {g : τ → α → Logged τ} {twin : τ}
    (Match : List α → σ → τ → Prop)
    (step : ∀ {item rest before after twin}, Match (item :: rest) before twin →
      (f before item).result = .ok after →
      ∃ next, (g twin item).result = .ok next ∧ Match rest after next)
    (start : Match items before twin) (ran : (items.foldlM f before).result = .ok after) :
    ∃ next, (items.foldlM g twin).result = .ok next ∧ Match [] after next := by
  induction items generalizing before twin with
  | nil =>
    cases ran
    exact ⟨twin, rfl, start⟩
  | cons item rest ih =>
    rw [List.foldlM_cons] at ran
    obtain ⟨middle, first, later, -⟩ := bind_ok ran
    obtain ⟨beside, here, matched⟩ := step start first
    obtain ⟨next, followed, done⟩ := ih matched later
    refine ⟨next, ?_, done⟩
    rw [List.foldlM_cons]
    exact result_bind_eq_ok_iff.mpr ⟨beside, here, followed⟩

end Logged

end NameAssignment
