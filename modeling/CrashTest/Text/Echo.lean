import CrashTest.Text.Printf
/-!
The `echo` command, in two dialects.

Both write their operands separated by blanks and followed by a line end.

The **shell's** `echo` takes only `-n` as its first operand (no line end), and always reads
backslash escapes, as `printf` reads its `%b` operand: `\c` ends all output there, with no line
end.

The **installed program** takes leading operands made only of the letters `n`, `e` and `E` after
a dash as options: `-n` drops the line end, `-e` reads escapes and `-E` stops reading them. Its
escapes are `\\ \a \b \e \f \n \r \t \v`, `\x` with one or two hexadecimal digits, `\0` with up to
three octal digits, `\1` to `\7` with up to two more, and `\c`, which ends all output; a backslash
before anything else, or at the end, stands for itself.
-/
namespace CrashTest.Text

/-- The output of the shell's `echo`. -/
def shellEcho (args : List String) : String :=
  let (newline, words) := match args with
    | "-n" :: rest => (false, rest)
    | rest => (true, rest)
  let text := " ".intercalate words
  let (s, cut) := shellEscapedText (text.length + 1) text.toList
  if cut || !newline then s else s ++ "\n"

/-- The installed `echo`'s reading of escapes: the text and whether `\c` ended it. -/
def programEchoEscapes : Nat → List Char → String × Bool
  | 0, _ => ("", false)
  | _, [] => ("", false)
  | fuel + 1, '\\' :: c :: rest =>
    let more (s : String) (rest : List Char) : String × Bool :=
      let (t, cut) := programEchoEscapes fuel rest
      (s ++ t, cut)
    match c with
    | 'c' => ("", true)
    | 'x' =>
      let (v, k, rest') := readHex 2 0 0 rest
      if k = 0 then more "\\x" rest else more (String.singleton (byteChar v)) rest'
    | '0' =>
      let (v, _, rest') := readOctal 3 0 0 rest
      more (String.singleton (byteChar v)) rest'
    | _ =>
      match octalValue? c with
      | some d =>
        let (v, _, rest') := readOctal 2 d 0 rest
        more (String.singleton (byteChar v)) rest'
      | none =>
        match letterEscape? c with
        | some b => more (String.singleton b) rest
        | none => more (String.ofList ['\\', c]) rest
  | fuel + 1, c :: rest =>
    let (t, cut) := programEchoEscapes fuel rest
    (String.singleton c ++ t, cut)

/-- Whether an operand of the installed `echo` is an option. -/
def isEchoOption (a : String) : Bool :=
  a.length ≥ 2 && a.startsWith "-" && (a.drop 1).all (fun c => c = 'n' || c = 'e' || c = 'E')

/-- The output of the installed `echo` program. -/
def programEcho (args : List String) : String :=
  let options := args.takeWhile isEchoOption
  let words := args.drop options.length
  let (noNewline, escapes) := options.foldl (fun (acc : Bool × Bool) a =>
    (a.drop 1).foldl (fun (acc : Bool × Bool) c =>
      match c with
      | 'n' => (true, acc.2)
      | 'e' => (acc.1, true)
      | _ => (acc.1, false)) acc) (false, false)
  let text := " ".intercalate words
  let (s, cut) := if escapes then programEchoEscapes (text.length + 1) text.toList else (text, false)
  if cut || noNewline then s else s ++ "\n"

end CrashTest.Text
