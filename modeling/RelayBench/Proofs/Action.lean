import RelayBench.World

/-! Runs of actions.  A chain of actions is run one link at a time, an action on a part of a state
changes that part only, and a run is split into the result it gives and the state it leaves. -/
namespace RelayBench
namespace Action

variable {σ τ α β : Type}

def result : EStateM.Result Fault σ α → Except Fault α
  | .ok a _ => .ok a
  | .error fault _ => .error fault

def state : EStateM.Result Fault σ α → σ
  | .ok _ s => s
  | .error _ s => s

@[simp] theorem result_ok (a : α) (s : σ) : result (.ok a s) = .ok a := rfl

@[simp] theorem result_error (fault : Fault) (s : σ) :
    result (.error fault s : EStateM.Result Fault σ α) = .error fault := rfl

@[simp] theorem state_ok (a : α) (s : σ) : state (.ok a s) = s := rfl

@[simp] theorem state_error (fault : Fault) (s : σ) :
    state (.error fault s : EStateM.Result Fault σ α) = s := rfl

theorem eq_ok {run : EStateM.Result Fault σ α} {a : α}
    (worked : (result run).toOption = some a) : run = .ok a (state run) := by
  cases run <;> simp_all [Except.toOption]

@[simp] theorem pure_apply (a : α) (s : σ) : (pure a : EStateM Fault σ α) s = .ok a s := rfl

@[simp] theorem throw_apply (fault : Fault) (s : σ) :
    (throw fault : EStateM Fault σ α) s = .error fault s := rfl

@[simp] theorem get_apply (s : σ) : (get : EStateM Fault σ σ) s = .ok s s := rfl

@[simp] theorem set_apply (s t : σ) : (set t : EStateM Fault σ PUnit) s = .ok .unit t := rfl

@[simp] theorem modify_apply (change : σ → σ) (s : σ) :
    (modify change : EStateM Fault σ PUnit) s = .ok .unit (change s) := rfl

@[simp] theorem bind_apply (first : EStateM Fault σ α) (next : α → EStateM Fault σ β) (s : σ) :
    (first >>= next) s = match first s with
      | .ok a s => next a s
      | .error fault s => .error fault s := by
  simp only [bind, EStateM.bind]
  cases first s <;> rfl

@[simp] theorem map_apply (change : α → β) (action : EStateM Fault σ α) (s : σ) :
    (change <$> action) s = match action s with
      | .ok a s => .ok (change a) s
      | .error fault s => .error fault s := by
  simp only [Functor.map, EStateM.map]
  cases action s <;> rfl

@[simp] theorem tryCatch_apply (action : EStateM Fault σ α) (handle : Fault → EStateM Fault σ α)
    (s : σ) : (tryCatch action handle) s = match action s with
      | .ok a s => .ok a s
      | .error fault s => handle fault s := by
  show EStateM.tryCatch action handle s = _
  delta EStateM.tryCatch
  cases action s <;> rfl

theorem bind_ok {first : EStateM Fault σ α} {s middle : σ} {a : α}
    (ran : first s = .ok a middle) (next : α → EStateM Fault σ β) :
    (first >>= next) s = next a middle := by
  rw [bind_apply, ran]

theorem bind_error {first : EStateM Fault σ α} {s middle : σ} {fault : Fault}
    (failed : first s = .error fault middle) (next : α → EStateM Fault σ β) :
    (first >>= next) s = .error fault middle := by
  rw [bind_apply, failed]

theorem bind_success {first : EStateM Fault σ α} {next : α → EStateM Fault σ β} {s after : σ}
    {b : β} (ran : (first >>= next) s = .ok b after) :
    ∃ a middle, first s = .ok a middle ∧ next a middle = .ok b after := by
  rw [bind_apply] at ran
  cases run : first s with
  | ok a middle => exact ⟨a, middle, rfl, by simpa only [run] using ran⟩
  | error fault middle => simp [run] at ran

theorem onPart_ok {part : σ → τ} {put : τ → σ → σ} {action : EStateM Fault τ α} {s : σ} {t : τ}
    {a : α} (ran : action (part s) = .ok a t) : onPart part put action s = .ok a (put t s) := by
  simp only [onPart, ran]

theorem onPart_error {part : σ → τ} {put : τ → σ → σ} {action : EStateM Fault τ α} {s : σ} {t : τ}
    {fault : Fault} (failed : action (part s) = .error fault t) :
    onPart part put action s = .error fault (put t s) := by
  simp only [onPart, failed]

@[simp] theorem onPart_apply (part : σ → τ) (put : τ → σ → σ) (action : EStateM Fault τ α) (s : σ) :
    onPart part put action s = match action (part s) with
      | .ok a t => .ok a (put t s)
      | .error fault t => .error fault (put t s) := rfl

@[simp] theorem attempt_apply (action : EStateM Fault σ α) (s : σ) :
    attempt action s = match action s with
      | .ok a s => .ok (.ok a) s
      | .error fault s => .ok (.error fault) s := rfl

@[simp] theorem liftNet_apply (call : NetCall α) (world : World) :
    (liftM call : Bench α) world =
      onPart World.net (fun net world => { world with net }) call world := rfl

end Action

namespace World

variable (world : World)

@[simp] theorem emit_apply (entry : Entry) : emit entry world = .ok () (world.write entry) := rfl

/-- Writing to the log changes nothing else. -/
theorem write_eq (entry : Entry) : world.write entry = { world with log := (world.write entry).log } := by
  unfold write
  split <;> rfl

@[simp] theorem write_net (entry : Entry) : (world.write entry).net = world.net := by
  rw [write_eq]

end World

namespace Net

/-- A call on a link changes that link, whether it raises a fault or not. -/
theorem onLink_apply {α : Type} (index : Nat) (call : Link → Except Fault α × Link) (net : Net) :
    onLink index call net = match (call (net.link index)).1 with
      | .ok a => .ok a (net.updateLink index fun link => (call link).2)
      | .error fault => .error fault (net.updateLink index fun link => (call link).2) := by
  have same := Table.update_congr net.links index (fun _ => (call (net.link index)).2)
    (fun link => (call link).2) rfl
  simp only [onLink, updateLink, ← same]
  rcases call (net.link index) with ⟨fault | a, link⟩ <;> rfl

/-- Adopting a link changes that link, whether it raises a fault or not. -/
theorem adoptLink_ok {index : Nat} {limit : Option Number} {net : Net}
    (adopted : ((net.link index).adopt net.platform limit).1 = .ok ()) :
    adoptLink index limit net = .ok () (net.updateLink index fun link => (link.adopt net.platform limit).2) := by
  simp only [adoptLink, onLink_apply, adopted]

theorem adoptLink_error {index : Nat} {limit : Option Number} {net : Net} {fault : Fault}
    (lost : ((net.link index).adopt net.platform limit).1 = .error fault) :
    adoptLink index limit net =
      .error fault (net.updateLink index fun link => (link.adopt net.platform limit).2) := by
  simp only [adoptLink, onLink_apply, lost]

theorem readLink_apply (index : Nat) (size : Int) (net : Net) :
    readLink index size net = .ok ((net.link index).read net.platform size).1
      (net.updateLink index fun link => (link.read net.platform size).2) := by
  have same := Table.update_congr net.links index (fun _ => ((net.link index).read net.platform size).2)
    (fun link => (link.read net.platform size).2) rfl
  simp only [readLink, updateLink, ← same]

end Net
end RelayBench
