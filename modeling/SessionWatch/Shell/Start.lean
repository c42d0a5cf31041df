/-
# How a shell is started

The arguments of a shell are options, then a script or the name of a file that
holds one, then the arguments of the script. Without either the shell reads its
script from its input.

Key definitions: `Shell.Start`, `Shell.Start.read`.
-/
import SessionWatch.Shell.Builtin

namespace SessionWatch.Shell

structure Start where
  options : List Char := []
  /-- The script is an argument. -/
  line : Bool := false
  operands : List String := []

namespace Start

/-- Reads the arguments of a shell; `lenient` if long options may be among them. What is no
option is given instead. -/
def read (lenient : Bool) : (fuel : Nat) → Start → List String → Except String Start
  | 0, st, args => .ok { st with operands := args }
  | fuel + 1, st, args =>
    match args with
    | [] => .ok st
    | a :: rest =>
      match a.toList with
      | ['-'] | ['-', '-'] => .ok { st with operands := rest }
      | '-' :: '-' :: _ => if lenient then read lenient fuel st rest else .error "--"
      | sign :: c :: cs =>
        if sign ≠ '-' ∧ sign ≠ '+' then .ok { st with operands := args }
        else
          let letters := c :: cs
          let st := { st with line := st.line || (sign = '-' && letters.contains 'c') }
          let others := letters.filter fun c => c ≠ 'c' && c ≠ 'l'
          if others.isEmpty then read lenient fuel st rest
          else match Builtin.setOptions? 1 st.options (String.ofList (sign :: others) :: rest) with
            | .error what => .error what
            | .ok (options, rest, _) => read lenient fuel { st with options := options } rest
      | _ => .ok { st with operands := args }

/-- The state of a shell that a program of this shell is. -/
def state (s : State) (name : String) (environment : List (String × String)) : State :=
  let (id, s) := s.fresh
  let given := environment.map fun (n, v) =>
    ({ name := n, value := some v, exported := true } : Variable)
  let start : State :=
    { world := s.world, ends := s.ends, vars := given.reverse, name := name
      directory := s.directory, now := s.now, shell := id, job := s.job
      above := s.shell :: s.above }
  let own : List (String × String) :=
    [("IFS", " \t\n"), ("OPTIND", "1"), ("PS4", "+ "), ("PPID", State.idText s.shell)]
  let start := own.foldl (fun t p => t.put { name := p.1, value := some p.2 }) start
  let pwd : Variable :=
    { name := "PWD", value := some ("/" ++ "/".intercalate s.directory), exported := true }
  start.put pwd

end Start

end SessionWatch.Shell
