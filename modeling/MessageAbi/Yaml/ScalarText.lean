import MessageAbi.Json.Reader
import MessageAbi.Yaml.Cursor

/-!
This module contains the scanning of scalars: plain, quoted, literal and folded ones.
-/

namespace MessageAbi.Yaml

structure Gap where
  hasBreak : Bool
  blanks : List Char
  firstBreak : List Char
  laterBreaks : List Char

namespace Gap

def empty : Gap :=
  ⟨false, [], [], []⟩

/--
What a gap stands for: its blanks if they stand in one line, else a space for a single line feed and
the later breaks for several.
-/
def folded (gap : Gap) : List Char :=
  if !gap.hasBreak then gap.blanks
  else if gap.firstBreak.head? = some '\n' then
    if gap.laterBreaks.isEmpty then [' '] else gap.laterBreaks
  else gap.firstBreak ++ gap.laterBreaks

/--
Goes on with a gap as far as blanks and line breaks stand. No tab may stand before the given column
of a later line.
-/
def scan? (minColumn : Nat) : (fuel : Nat) → Gap → Cursor → Option (Gap × Cursor)
  | 0, gap, cursor => some (gap, cursor)
  | fuel + 1, gap, cursor =>
    match cursor.peek? 0 with
    | none => some (gap, cursor)
    | some c =>
      if isBlank c then
        if !gap.hasBreak then
          scan? minColumn fuel { gap with blanks := gap.blanks ++ [c] } cursor.skip
        else if c = '\t' ∧ cursor.column < minColumn then none
        else scan? minColumn fuel gap cursor.skip
      else if isBreak c then
        let (found, cursor) := cursor.takeBreak
        if gap.hasBreak then
          scan? minColumn fuel { gap with laterBreaks := gap.laterBreaks ++ found } cursor
        else
          let gap := { gap with hasBreak := true, blanks := [], firstBreak := found }
          scan? minColumn fuel gap cursor
      else some (gap, cursor)

end Gap

namespace Scan

def plainRun? (isFlow : Bool) : (fuel : Nat) → Cursor → Option (List Char × Cursor)
  | 0, cursor => some ([], cursor)
  | fuel + 1, cursor =>
    match cursor.peek? 0 with
    | none => some ([], cursor)
    | some c =>
      if isBlank c || isBreak c then some ([], cursor)
      else if isFlow && c = ':'
          && cursor.has 1 (fun d => d ∈ [',', '?', '[', ']', '\x7b', '\x7d']) then
        none
      else if (c = ':' && cursor.isSpaceAt 1)
          || (isFlow && c ∈ [',', '[', ']', '\x7b', '\x7d']) then
        some ([], cursor)
      else do
        let (run, cursor) ← plainRun? isFlow fuel cursor.skip
        return (c :: run, cursor)

def plain? (isFlow : Bool) (minColumn : Nat) :
    (fuel : Nat) → Gap → Cursor → Option (List Char × Bool × Cursor)
  | 0, gap, cursor => some ([], gap.hasBreak, cursor)
  | fuel + 1, gap, cursor =>
    if cursor.isAtMarker || cursor.isAt '#' then some ([], gap.hasBreak, cursor)
    else do
      let (run, behind) ← plainRun? isFlow (cursor.rest.length + 1) cursor
      if run.isEmpty then some ([], gap.hasBreak, behind)
      else
        let text := gap.folded ++ run
        let (gap, next) ← Gap.scan? minColumn (behind.rest.length + 1) .empty behind
        if next.index = behind.index then some (text, false, behind)
        else if !isFlow && next.column < minColumn then some (text, gap.hasBreak, next)
        else
          let (more, hasBreak, cursor) ← plain? isFlow minColumn fuel gap next
          return (text ++ more, hasBreak, cursor)

def escape? (cursor : Cursor) : Option (Char × Cursor) := do
  let c ← cursor.peek? 0
  match c with
  | '0' => some ('\x00', cursor.skip)
  | 'a' => some ('\x07', cursor.skip)
  | 'b' => some ('\x08', cursor.skip)
  | 't' | '\t' => some ('\t', cursor.skip)
  | 'n' => some ('\n', cursor.skip)
  | 'v' => some ('\x0b', cursor.skip)
  | 'f' => some ('\x0c', cursor.skip)
  | 'r' => some ('\r', cursor.skip)
  | 'e' => some ('\x1b', cursor.skip)
  | ' ' | '"' | '/' | '\\' => some (c, cursor.skip)
  | 'N' => some ('\u0085', cursor.skip)
  | '_' => some ('\u00a0', cursor.skip)
  | 'L' => some ('\u2028', cursor.skip)
  | 'P' => some ('\u2029', cursor.skip)
  | 'x' => code? 2 cursor.skip
  | 'u' => code? 4 cursor.skip
  | 'U' => code? 8 cursor.skip
  | _ => none
where
  code? (digits : Nat) (cursor : Cursor) : Option (Char × Cursor) := do
    let values ← (cursor.rest.take digits).mapM Json.Reader.hexValue?
    if values.length < digits then none
    let n := values.foldl (fun n digit => n * 16 + digit) 0
    if h : n.isValidChar then some (Char.ofNatAux n h, cursor.skip digits) else none

def quotedRun? (isSingle : Bool) : (fuel : Nat) → Cursor → Option (List Char × Bool × Cursor)
  | 0, cursor => some ([], false, cursor)
  | fuel + 1, cursor =>
    match cursor.rest with
    | [] => some ([], false, cursor)
    | c :: rest =>
      if isBlank c || isBreak c then some ([], false, cursor)
      else if isSingle then
        if c = '\'' then
          if rest.head? = some '\'' then do
            let (run, passed, cursor) ← quotedRun? isSingle fuel (cursor.skip 2)
            return (c :: run, passed, cursor)
          else some ([], false, cursor)
        else do
          let (run, passed, cursor) ← quotedRun? isSingle fuel cursor.skip
          return (c :: run, passed, cursor)
      else if c = '"' then some ([], false, cursor)
      else if c = '\\' then
        if rest.head?.any isBreak then some ([], true, cursor.skip.skipBreak)
        else do
          let (escaped, cursor) ← escape? cursor.skip
          let (run, passed, cursor) ← quotedRun? isSingle fuel cursor
          return (escaped :: run, passed, cursor)
      else do
        let (run, passed, cursor) ← quotedRun? isSingle fuel cursor.skip
        return (c :: run, passed, cursor)

def quoted? (isSingle : Bool) : (fuel : Nat) → Cursor → Option (List Char × Cursor)
  | 0, _ => none
  | fuel + 1, cursor => do
    if cursor.isAtMarker || cursor.isAtEnd then none
    let (run, passed, cursor) ← quotedRun? isSingle (cursor.rest.length + 1) cursor
    if cursor.isAt (if isSingle then '\'' else '"') then return (run, cursor.skip)
    else
      let (gap, cursor) ←
        Gap.scan? 0 (cursor.rest.length + 1) { Gap.empty with hasBreak := passed } cursor
      let (more, cursor) ← quoted? isSingle fuel cursor
      return (run ++ gap.folded ++ more, cursor)

inductive Chomping where
  | strip
  | clip
  | keep
  deriving DecidableEq, Repr

def blockHeader? (cursor : Cursor) : Option (Chomping × Option Nat × Cursor) := do
  match chomping? cursor with
  | some chomping =>
    let (increment, cursor) ← increment? cursor.skip
    return (chomping, increment, cursor)
  | none =>
    let (increment, cursor) ← increment? cursor
    match increment, chomping? cursor with
    | some n, some chomping => return (chomping, some n, cursor.skip)
    | _, _ => return (.clip, increment, cursor)
where
  chomping? (cursor : Cursor) : Option Chomping :=
    match cursor.peek? 0 with
    | some '+' => some .keep
    | some '-' => some .strip
    | _ => none
  increment? (cursor : Cursor) : Option (Option Nat × Cursor) :=
    match cursor.peek? 0 with
    | some c =>
      if c = '0' then none
      else if c.isDigit then some (some (c.toNat - '0'.toNat), cursor.skip)
      else some (none, cursor)
    | none => some (none, cursor)

/--
Indentation and empty lines before a line of a literal or folded scalar: the breaks of the empty
lines and the greatest indentation seen. Spaces count for indentation up to the given column, or
all of them if there is none yet.
-/
def blockBreaks? (indent : Option Nat) :
    (fuel maxIndent : Nat) → Cursor → Option (List Char × Nat × Cursor)
  | 0, maxIndent, cursor => some ([], maxIndent, cursor)
  | fuel + 1, maxIndent, cursor =>
    let spaces := (cursor.rest.takeWhile (· == ' ')).length
    let cursor := cursor.skip (match indent with
      | none => spaces
      | some n => min spaces (n - cursor.column))
    let maxIndent := max maxIndent cursor.column
    if cursor.isAt '\t' && indent.all (cursor.column < ·) then none
    else if cursor.has 0 isBreak then do
      let (found, cursor) := cursor.takeBreak
      let (more, maxIndent, cursor) ← blockBreaks? indent fuel maxIndent cursor
      return (found ++ more, maxIndent, cursor)
    else some ([], maxIndent, cursor)

/--
The lines of a literal or folded scalar from the start of a line on. `lineBreak` ends the line
before, `emptyLines` are the breaks after it, and `wasBlank` says whether that line starts with a
blank; a break between two lines that do not is folded.
-/
def blockLines? (isLiteral : Bool) (indent : Nat) (chomping : Chomping) :
    (fuel : Nat) → (lineBreak emptyLines : List Char) → (wasBlank : Bool) → Cursor →
      Option (List Char × Cursor)
  | 0, _, _, _, _ => none
  | fuel + 1, lineBreak, emptyLines, wasBlank, cursor =>
    if cursor.column = indent && !cursor.isAtEnd then do
      let isBlankLine := cursor.has 0 isBlank
      let gap :=
        if !isLiteral && lineBreak.head? == some '\n' && !wasBlank && !isBlankLine then
          if emptyLines.isEmpty then [' '] else emptyLines
        else lineBreak ++ emptyLines
      let (line, cursor) := cursor.span (!isBreak ·)
      let (lineBreak, cursor) := cursor.takeBreak
      let (emptyLines, _, cursor) ←
        blockBreaks? (some indent) (cursor.rest.length + 1) 0 cursor
      let (more, cursor) ←
        blockLines? isLiteral indent chomping fuel lineBreak emptyLines isBlankLine cursor
      return (gap ++ line ++ more, cursor)
    else
      some (match chomping with
        | .strip => []
        | .clip => lineBreak
        | .keep => lineBreak ++ emptyLines, cursor)

def block? (isLiteral : Bool) (parentIndent : Int) (cursor : Cursor) :
    Option (List Char × Cursor) := do
  let (chomping, increment, cursor) ← blockHeader? cursor
  let cursor := cursor.skipWhile isBlank
  let cursor := if cursor.isAt '#' then cursor.skipWhile (!isBreak ·) else cursor
  if !cursor.isAtBreakOrEnd then none
  let cursor := cursor.skipBreak
  let given := increment.map fun n => (max parentIndent 0).toNat + n
  let (emptyLines, maxIndent, cursor) ←
    blockBreaks? given (cursor.rest.length + 1) 0 cursor
  let indent := given.getD (max maxIndent (max (parentIndent + 1).toNat 1))
  blockLines? isLiteral indent chomping (cursor.rest.length + 2) [] emptyLines false cursor

end Scan

end MessageAbi.Yaml
