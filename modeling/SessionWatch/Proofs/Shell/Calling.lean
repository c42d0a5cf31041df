/-
# What a program is told that a shell calls

A setting in front of a command is told to the program that the command calls:
in the environment of the program the variable has the value that was set, even
if the shell had another one for it or kept it to itself. The shell itself has
its old variable again when the program has ended.

Builtin commands that are special are left out. A setting in front of one of
them stays in the shell, and no program is called.

Key definitions: `Shell.Calls`.
Key theorems: `Shell.State.lookup_environment_put`, `Shell.simple_setting`.
-/
import SessionWatch.Proofs.Shell.Filling

namespace SessionWatch.Shell

namespace State

variable {s : State} {name value : String}

/-- A variable that is exported is told with its value. -/
theorem lookup_environment_put (s : State) {v : Variable} (exported : v.exported = true)
    (valued : v.value = some value) :
    (s.put v).environment.lookup v.name = some value := by
  let told (v : Variable) : Option (String × String) :=
    if v.exported then v.value.map fun x => (v.name, x) else none
  have others : (((s.vars.filter (·.name ≠ v.name)).reverse.filterMap told).lookup v.name) = none := by
    rw [List.lookup_eq_none_iff]
    intro p hp
    obtain ⟨u, hu, telling⟩ := List.mem_filterMap.mp hp
    have apart : u.name ≠ v.name := by
      have := (List.mem_filter.mp (List.mem_reverse.mp hu)).2
      simpa using this
    have named : p.1 = u.name := by
      simp only [told] at telling
      split at telling
      · obtain ⟨x, -, rfl⟩ := Option.map_eq_some_iff.mp telling
        rfl
      · cases telling
    rw [named]
    simpa using apart.symm
  have last : told v = some (v.name, value) := by simp [told, exported, valued]
  have parts : (s.put v).environment =
      (s.vars.filter (·.name ≠ v.name)).reverse.filterMap told ++ [(v.name, value)] := by
    show (v :: s.vars.filter (·.name ≠ v.name)).reverse.filterMap told = _
    rw [List.reverse_cons, List.filterMap_append, List.filterMap_cons_some last,
      List.filterMap_nil]
  rw [parts, List.lookup_append, others]
  simp

theorem lookup?_put (s : State) (v : Variable) : (s.put v).lookup? v.name = some v := by
  simp [lookup?, put]

/-- Setting a variable that is not fixed puts one with this value in its place. -/
theorem set_eq_put (value : String) (loose : ∀ v ∈ s.lookup? name, v.fixed = false)
    (other : name ≠ "OPTIND") :
    ∃ v : Variable, v.name = name ∧ v.value = some value ∧ s.set name value = s.put v := by
  let v := (s.lookup? name).getD { name := name, value := none }
  have named : v.name = name := by
    cases h : s.lookup? name with
    | none => simp [v, h]
    | some u =>
      have := List.find?_some h
      simpa [v, h] using this
  have free : v.fixed = false := by
    cases h : s.lookup? name with
    | none => simp [v, h]
    | some u => simpa [v, h] using loose u h
  refine ⟨{ v with value := some value, exported := v.exported || s.options.contains 'a' },
    named, rfl, ?_⟩
  unfold set
  dsimp only
  rw [if_neg (by simpa [v] using free), if_neg other]

end State

/-- Printing changes no variables. -/
theorem State.vars_print (s : State) (file : Nat) (text : String) :
    (s.print file text).vars = s.vars := by
  unfold print write
  split
  · rfl
  · rfl
  · rfl
  · split <;> rfl
  · rfl

/-- Tracing changes no variables. -/
theorem vars_trace (s : State) (settings : List (String × String)) (fields : List String) :
    (trace s settings fields).vars = s.vars := by
  unfold trace
  dsimp only
  split
  · exact s.vars_print 2 _
  · rfl

/-- **A program that is called is told of a setting in front of the call.** Afterwards the shell has
the variable that it had before. -/
theorem simple_setting {words ws : List Word} {w value : Word} {name : String}
    (split : splitSettings words = ([(name, value)], w :: ws))
    (plain : ∀ v ∈ w :: ws, v.IsPlain)
    (free : ∀ v ∈ w :: ws, Script.assignment? v = none) (long : 1 < ws.length)
    (valued : value.IsPlain) (other : name ≠ "OPTIND")
    (program : Builtin.specials.contains w.text = false) (depth : Nat) (m : Standing)
    {s : State} (on : s.isOn = true) (loose : ∀ v ∈ s.lookup? name, v.fixed = false) :
    ∃ called : State, called.environment.lookup name = some value.text ∧
      simple (depth + 5) m words [] s =
        { restore
            { perform (depth + 4) m false w.text (ws.map Word.text) called with
              speaker := called.speaker }
            [(name, s.lookup? name)] with ends := s.ends } := by
  obtain ⟨s₁, start⟩ : ∃ s₁ : State, s₁ = { s with taken := none } := ⟨_, rfl⟩
  have same (name : String) : s₁.lookup? name = s.lookup? name := by rw [start]; rfl
  have on₁ : s₁.isOn = true := by rw [start]; exact on
  obtain ⟨v, rfl, set_value, set⟩ := State.set_eq_put (s := s₁) value.text
    (by rwa [same]) other
  obtain ⟨s₂, second⟩ : ∃ s₂ : State, s₂ = s₁.put v := ⟨_, rfl⟩
  refine ⟨trace (s₂.put { v with exported := true }) [(v.name, value.text)]
    ((w :: ws).map Word.text), ?_, ?_⟩
  · have told := State.lookup_environment_put s₂ (v := { v with exported := true }) rfl set_value
    rw [State.environment, vars_trace]
    exact told
  · have fields (whole : Bool) : fieldsOf (depth + 4) whole (w :: ws) s₁ =
        (w.text :: ws.map Word.text, s₁) := fieldsOf_plain plain free (depth + 1) whole on₁
    have opened : openAll (depth + 4) [] s₁ = (true, s₁) := rfl
    have settings : settingsOf (depth + 4) [(v.name, value)] s₁ =
        ([(v.name, value.text)], s₂) := by
      rw [settingsOf_plain valued v.name depth on₁, set, second]
    have current : s₂.lookup? v.name = some v := by rw [second, State.lookup?_put]
    have on₂ : s₂.isOn = true := by rw [second]; exact on₁
    have more : 2 < (w.text :: ws.map Word.text).length := by
      rw [List.length_cons, List.length_map]
      omega
    have exec : ¬ (w.text :: ws.map Word.text = ["exec"] ∨
        w.text :: ws.map Word.text = ["command", "exec"]) := by
      rintro (h | h) <;> rw [h] at more <;> exact absurd more (by decide)
    rw [simple, split]
    dsimp only
    rw [← start]
    simp only [fields, on₁, opened, settings, on₂, program, current, exec, same, List.head?_cons,
      Option.getD_some, List.isEmpty_cons, List.map_cons, List.map_nil, List.foldl_cons,
      List.foldl_nil, List.drop_succ_cons, List.drop_zero, not_true, if_true, if_false,
      Bool.false_eq_true]

/-- A shell that carries out the line calls a program with arguments, and the program is told of
the setting, whatever the shell itself has in the variable. -/
def Calls (line : String) (setting : String × String) (program : String) (args : List String) :
    Prop :=
  ∃ words : List Word, Program.ofText line = ⟨[.command 1 words []], true⟩ ∧
    ∀ (depth : Nat) (s : State), s.isOn = true →
      (settingsOf (depth + 4) (splitSettings words).1 s).1 = [setting] ∧
      (Builtin.specials.contains program = false →
        (∀ v ∈ s.lookup? setting.1, v.fixed = false) → ∀ m : Standing,
          ∃ called : State, called.environment.lookup setting.1 = some setting.2 ∧
            simple (depth + 5) m words [] s =
              { restore
                  { perform (depth + 4) m false program args called with
                    speaker := called.speaker }
                  [(setting.1, s.lookup? setting.1)] with ends := s.ends })

end SessionWatch.Shell
