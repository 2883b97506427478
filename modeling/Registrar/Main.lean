import Registrar.Command.Run
import Std.Time.Format

/-!
# The program

The surroundings of the process, and the entry point that prints what `Surroundings.run` answers.
-/

namespace Registrar

/-- What stands at a path of the file system. -/
def readContent (path : String) : IO FileContent := do
  try return .text (← IO.FS.readFile path)
  catch
    | .noFileOrDirectory .. => return .absent
    | _ => return .unreadable

/-- The variables in a block of them, each ended by a zero byte. -/
def environmentOfBlock (block : String) : Environment :=
  (Text.segments (· = '\x00') block.toList).filterMap fun line =>
    (Text.cutFirst? (· = '=') line).map fun (name, value) => (.ofList name, .ofList value)

/-- The variables of the process; none if they cannot be listed. -/
def readEnvironment : IO Environment := do
  try
    let bytes ← IO.FS.readBinFile "/proc/self/environ"
    return environmentOfBlock ((String.fromUTF8? bytes).getD "")
  catch _ => return []

/-- The folder in which the user keeps configurations. -/
def configFolderOf (env : Environment) : Option String :=
  ((env.get? "XDG_CONFIG_HOME").filter (·.startsWith "/")) <|>
    (((env.get? "HOME").filter (· ≠ "")).map (· ++ "/.config"))

/-- The date of the day in the time zone of the system. -/
def readToday : IO Date := do
  let now ← Std.Time.PlainDate.now
  match Date.ofYmd? now.year.toInt now.month.val.toNat now.day.val.toNat with
  | some date => return date
  | none => throw (IO.userError "the system names a day that does not exist")

/-- A name made of random bytes, in groups of hexadecimal digits. -/
def randomId : IO String := do
  let bytes ← IO.getRandomBytes 16
  let pinned := (bytes.toList.zipIdx).map fun (b, i) =>
    if i = 6 then b &&& 0x0f ||| 0x40 else if i = 8 then b &&& 0x3f ||| 0x80 else b
  let digits := pinned.map fun b =>
    String.ofList [Nat.digitChar (b.toNat / 16), Nat.digitChar (b.toNat % 16)]
  let group (i n : Nat) := String.join ((digits.drop i).take n)
  return "-".intercalate [group 0 4, group 4 2, group 6 2, group 8 2, group 10 6]

/-- What the process finds around it. -/
def readSurroundings : IO (Surroundings IO) := do
  let environment ← readEnvironment
  return ⟨readContent, configFolderOf environment, environment, readToday, randomId⟩

end Registrar

/-- The entry point of the program. -/
def main (args : List String) : IO UInt32 := do
  let answer ← (← Registrar.readSurroundings).run args
  IO.print answer.output
  if let some message := answer.failure then IO.eprintln ("Error: " ++ message)
  return answer.exitCode
