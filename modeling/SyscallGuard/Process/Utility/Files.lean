import SyscallGuard.Process.Options

set_option autoImplicit false

/-! # Programs on files

The programs that create, copy, move, remove and list files. -/

namespace SyscallGuard.Utility

open Work (complain say withOptions)

/-! ## Operands -/

/-- A text between quotes. -/
def quoted (b : Bytes) : String := "'" ++ Utf8.display b ++ "'"

/-- Complains about operands. -/
def misuse (program message : String) : Work Nat := do
  complain (program ++ ": " ++ message ++ "\nTry '" ++ program ++ " --help' for more information.\n")
  return 1

/-- Does something for each of some operands. The status is that of a failure, if there is one. -/
def forOperands (program : String) (operands : List Bytes) (body : Bytes → Work Nat) : Work Nat := do
  if operands.isEmpty then misuse program "missing operand"
  else operands.foldlM (fun status a => return max status (← body a)) 0

/-- Complains about an operand. -/
def refuse (program verb : String) (path : Bytes) (cause : String) : Work Nat := do
  complain (program ++ ": " ++ verb ++ " " ++ quoted path ++ ": " ++ cause ++ "\n")
  return 1

/-- A path without the slashes at its end. -/
def trimSlashes (path : Bytes) : Bytes :=
  let trimmed := (path.reverse.dropWhile fun b => b == Path.slash).reverse
  if trimmed.isEmpty && !path.isEmpty then [Path.slash] else trimmed

/-- The last name of a path. -/
def baseName (path : Bytes) : Bytes :=
  let trimmed := trimSlashes path
  if trimmed == [Path.slash] then trimmed
  else (trimmed.reverse.takeWhile fun b => b != Path.slash).reverse

/-! ## Creating -/

/-- Makes sure that files exist. -/
def touch (args : List Bytes) : Work Nat :=
  withOptions "touch" ⟨"acmfh", "drt", [("no-create", 'c')]⟩ args 1 fun o =>
  if o.operands.isEmpty then misuse "touch" "missing file operand"
  else forOperands "touch" o.operands fun path => do
    match ← Work.locate true path with
    | .ok (.present _) => return 0
    | .ok (.absent ..) =>
      if o.has 'c' then return 0
      else match (← get).openPath (← read) .append path with
        | .ok (_, s) =>
          set s
          return 0
        | .error e => refuse "touch" "cannot touch" path e.describe
    | .error e =>
      if path.getLast? == some Path.slash then
        match ← Work.locate true (trimSlashes path) with
        | .ok (.present _) => refuse "touch" "setting times of" path e.describe
        | _ => refuse "touch" "cannot touch" path e.describe
      else refuse "touch" "cannot touch" path e.describe

/-- Makes a directory with those above it. The directories that are there already stay. -/
def makeAll (whole : Bytes) : Bytes → List Bytes → Work Nat
  | _, [] => return 0
  | before, name :: rest => do
    let path := before ++ name
    let w := (← get).world
    match ← Work.locate true path with
    | .ok (.present spot) =>
      if w.entry? spot = some .directory then makeAll whole (path ++ [Path.slash]) rest
      else
        let cause := if rest.isEmpty then OsError.exists_ else .notDirectory
        refuse "mkdir" "cannot create directory" path cause.describe
    | .ok (.absent parent name) =>
      match parent.child? name with
      | some spot =>
        Work.change (w.set spot .directory)
        makeAll whole (path ++ [Path.slash]) rest
      | none => refuse "mkdir" "cannot create directory" path OsError.denied.describe
    | .error e => refuse "mkdir" "cannot create directory" path e.describe

/-- Makes directories. -/
def mkdir (args : List Bytes) : Work Nat :=
  withOptions "mkdir" ⟨"pv", "m", [("parents", 'p'), ("verbose", 'v'), ("mode", 'm')]⟩ args 1 fun o =>
  forOperands "mkdir" o.operands fun path => do
    if o.has 'p' then
      let start : Bytes := if Path.isAbsolute path then [Path.slash] else []
      makeAll path start ((Path.pieces path).filter fun p => !p.isEmpty)
    else
      match (← get).world.make (← read).directory (trimSlashes path) .directory with
      | .ok w =>
        Work.change w
        if o.has 'v' then say (Bytes.ofString ("mkdir: created directory " ++ quoted path ++ "\n"))
        return 0
      | .error e => refuse "mkdir" "cannot create directory" path e.describe

/-! ## Removing -/

/-- Removes files, and directories if asked. -/
def rm (args : List Bytes) : Work Nat :=
  withOptions "rm" ⟨"rRfdiIv", "", [("recursive", 'r'), ("force", 'f'), ("dir", 'd')]⟩ args 1 fun o =>
  if o.operands.isEmpty && o.has 'f' then return 0
  else forOperands "rm" o.operands fun path => do
    let recursive := o.has 'r' || o.has 'R'
    let name := baseName path
    let w := (← get).world
    match ← Work.locate false path with
    | .error e =>
      if o.has 'f' && (e = .notFound || e = .notDirectory) then return 0
      else refuse "rm" "cannot remove" path e.describe
    | .ok (.absent ..) =>
      if o.has 'f' then return 0 else refuse "rm" "cannot remove" path OsError.notFound.describe
    | .ok (.present spot) =>
      if w.entry? spot ≠ some .directory then
        Work.change (w.remove spot)
        return 0
      else if !recursive && !o.has 'd' then
        refuse "rm" "cannot remove" path OsError.isDirectory.describe
      else if name = Path.here ∨ name = Path.above then
        complain ("rm: refusing to remove '.' or '..' directory: skipping " ++ quoted path ++ "\n")
        return 1
      else if !recursive && !(w.children spot).isEmpty then
        refuse "rm" "cannot remove" path OsError.notEmpty.describe
      else
        Work.change (w.remove spot)
        return 0

/-- Removes empty directories. -/
def rmdir (args : List Bytes) : Work Nat :=
  withOptions "rmdir" ⟨"pv", "", [("parents", 'p'), ("ignore-fail-on-non-empty", 'i')]⟩ args 1 fun o =>
  forOperands "rmdir" o.operands fun path => do
    let w := (← get).world
    let fail (e : OsError) : Work Nat := refuse "rmdir" "failed to remove" path e.describe
    match ← Work.locate false path with
    | .error e => fail e
    | .ok (.absent ..) => fail .notFound
    | .ok (.present spot) =>
      if w.entry? spot ≠ some .directory then fail .notDirectory
      else if baseName path = Path.here then fail .invalid
      else if !(w.children spot).isEmpty then fail .notEmpty
      else
        Work.change (w.remove spot)
        return 0

/-! ## Copying and moving -/

/-- An entry with all that lies below it, by the names that lead there. -/
def subtree (w : World) (spot : Spot) : Table :=
  match w.entry? spot with
  | some e => ([], e) :: w.below spot
  | none => []

/-- The spot some names below another one. -/
def descend? (spot : Spot) (names : List Bytes) : Option Spot :=
  names.foldl (fun s name => s.bind (Spot.child? name)) (some spot)

/-- The world with entries put below a spot. -/
def graft (w : World) (spot : Spot) (lines : Table) : World :=
  lines.foldl (fun w e =>
    match descend? spot e.1 with
    | some s => if w.entry? s = some .directory && e.2 = .directory then w else w.set s e.2
    | none => w) w

/-- Whether a spot lies below another one. -/
def isBelow : Spot → Spot → Bool
  | .inside inner, .inside outer => outer.isPrefixOf inner && inner.length > outer.length
  | .around inner, .around outer => outer.isPrefixOf inner && inner.length > outer.length
  | _, _ => false

/-- Where something is put that has several operands: into a directory, or under a new name. -/
inductive Destination where
  | into (directory : Bytes)
  | named (path : Bytes)

/-- Splits the operands of a program that puts files elsewhere. -/
def destination (program : String) (operands : List Bytes) (directory : Option Bytes) :
    Work (Except Nat (List Bytes × Destination)) := do
  match directory, operands.reverse with
  | some d, _ :: _ => return .ok (operands, .into d)
  | _, [] => return .error (← misuse program "missing file operand")
  | none, [only] =>
    return .error (← misuse program ("missing destination file operand after " ++ quoted only))
  | none, last :: sources =>
    if (← Work.entry? true last) == some .directory then return .ok (sources.reverse, .into last)
    else if sources.length > 1 then
      let cause := if (← Work.entry? true last).isSome then OsError.notDirectory else .notFound
      complain (program ++ ": target " ++ quoted last ++ ": " ++ cause.describe ++ "\n")
      return .error 1
    else return .ok (sources.reverse, .named last)

/-- The path of a source at its destination. -/
def Destination.path (d : Destination) (source : Bytes) : Bytes :=
  match d with
  | into directory => Path.child directory (baseName source)
  | named path => path

/-- Moves a file or directory to a path. -/
def moveTo (o : Options) (source target : Bytes) : Work Nat := do
  let w := (← get).world
  match ← Work.locate false source with
  | .error e => refuse "mv" "cannot stat" source e.describe
  | .ok (.absent ..) => refuse "mv" "cannot stat" source OsError.notFound.describe
  | .ok (.present spot) =>
    let isDirectory := w.entry? spot == some .directory
    let fail (cause : String) : Work Nat := do
      complain ("mv: cannot move " ++ quoted source ++ " to " ++ quoted target ++ ": " ++ cause ++ "\n")
      return 1
    let move (goal : Spot) : Work Nat := do
      if isBelow goal spot then
        complain ("mv: cannot move " ++ quoted source ++ " to a subdirectory of itself, "
          ++ quoted target ++ "\n")
        return 1
      else
        Work.change (graft ((w.remove spot).remove goal) goal (subtree w spot))
        return 0
    match ← Work.locate false (if isDirectory then trimSlashes target else target) with
    | .error e => fail e.describe
    | .ok (.absent parent name) =>
      match parent.child? name with
      | some goal => move goal
      | none => fail OsError.denied.describe
    | .ok (.present goal) =>
      if goal = spot then
        complain ("mv: " ++ quoted source ++ " and " ++ quoted target ++ " are the same file\n")
        return 1
      else if o.has 'n' then return 0
      else match isDirectory, w.entry? goal == some .directory with
        | true, false =>
          complain ("mv: cannot overwrite non-directory " ++ quoted target ++ " with directory "
            ++ quoted source ++ "\n")
          return 1
        | false, true =>
          complain ("mv: cannot overwrite directory " ++ quoted target
            ++ " with non-directory " ++ quoted source ++ "\n")
          return 1
        | true, true => if (w.children goal).isEmpty then move goal else fail OsError.notEmpty.describe
        | false, false => move goal

/-- Moves files and directories. -/
def mv (args : List Bytes) : Work Nat :=
  withOptions "mv" ⟨"finuvT", "t", [("force", 'f'), ("no-clobber", 'n')]⟩ args 1 fun o => do
  match ← destination "mv" o.operands (o.value? 't') with
  | .error status => return status
  | .ok (sources, d) =>
    sources.foldlM (fun status s => return max status (← moveTo o s (d.path s))) 0

/-- Copies a file to a path. -/
def copyFile (content : Bytes) (executable : Bool) (source target : Bytes) : Work Nat := do
  let fresh := (← Work.entry? true target).isNone
  match (← get).openPath (← read) .write target with
  | .error e =>
    let what := if e = .isDirectory then "cannot overwrite directory "
      else "cannot create regular file "
    complain ("cp: " ++ what ++ quoted target ++ (if e = .isDirectory
      then " with non-directory " ++ quoted source else ": " ++ e.describe) ++ "\n")
    return 1
  | .ok (n, s) =>
    set (s.put n content)
    match ← Work.locate true target with
    | .ok (.present spot) =>
      if fresh && executable then Work.change ((← get).world.set spot (.file content true))
    | _ => pure ()
    return 0

/-- Copies a file or directory to a path. -/
def copyTo (o : Options) (source target : Bytes) : Work Nat := do
  let recursive := o.has 'r' || o.has 'R' || o.has 'a'
  let w := (← get).world
  match ← Work.locate (!(recursive && !o.has 'L')) source with
  | .error e => refuse "cp" "cannot stat" source e.describe
  | .ok (.absent ..) => refuse "cp" "cannot stat" source OsError.notFound.describe
  | .ok (.present spot) =>
    match w.entry? spot, ← Work.locate true target with
    | some .directory, goal? =>
      if !recursive then
        complain ("cp: -r not specified; omitting directory " ++ quoted source ++ "\n")
        return 1
      else
        let goal? := match goal? with
          | .ok (.present goal) => if w.entry? goal == some .directory then some goal else none
          | .ok (.absent parent name) => parent.child? name
          | .error _ => none
        match goal? with
        | none =>
          complain ("cp: cannot create directory " ++ quoted target ++ ": "
            ++ OsError.notFound.describe ++ "\n")
          return 1
        | some goal =>
          if goal = spot || isBelow goal spot then
            complain ("cp: cannot copy a directory, " ++ quoted source ++ ", into itself, "
              ++ quoted target ++ "\n")
            return 1
          else
            Work.change (graft w goal (subtree w spot))
            return 0
    | some (.link text), goal? =>
      match goal? with
      | .ok (.absent parent name) =>
        match parent.child? name with
        | some goal =>
          Work.change (w.set goal (.link text))
          return 0
        | none => return 1
      | _ => return 1
    | some (.file content executable), goal? =>
      match goal? with
      | .ok (.present goal) =>
        if goal = spot then
          complain ("cp: " ++ quoted source ++ " and " ++ quoted target ++ " are the same file\n")
          return 1
        else if o.has 'n' then return 0
        else
          let content ← match ← Work.contentOf source with
            | .ok bytes => pure bytes
            | .error _ => pure content
          copyFile content executable source target
      | _ =>
        let content ← match ← Work.contentOf source with
          | .ok bytes => pure bytes
          | .error _ => pure content
        copyFile content executable source target
    | none, _ => refuse "cp" "cannot stat" source OsError.notFound.describe

/-- Copies files and directories. -/
def cp (args : List Bytes) : Work Nat :=
  withOptions "cp" ⟨"rRafpniuvdLPT", "t", [("recursive", 'r'), ("force", 'f'), ("archive", 'a')]⟩ args 1
    fun o => do
  match ← destination "cp" o.operands (o.value? 't') with
  | .error status => return status
  | .ok (sources, d) =>
    sources.foldlM (fun status s => return max status (← copyTo o s (d.path s))) 0

/-! ## Links -/

/-- Makes a link with some text, or a second name for a file. -/
def linkTo (o : Options) (source target : Bytes) : Work Nat := do
  let symbolic := o.has 's'
  let what := if symbolic then "failed to create symbolic link" else "failed to create hard link"
  let entry? ← if symbolic then pure (some (Entry.link source)) else Work.entry? false source
  match entry? with
  | none => refuse "ln" "failed to access" source OsError.notFound.describe
  | some .directory =>
    complain ("ln: " ++ Utf8.display source ++ ": hard link not allowed for directory\n")
    return 1
  | some entry =>
    if o.has 'f' then
      match ← Work.locate false target with
      | .ok (.present spot) =>
        if (← get).world.entry? spot ≠ some .directory then
          Work.change ((← get).world.remove spot)
      | _ => pure ()
    match (← get).world.make (← read).directory target entry with
    | .ok w =>
      Work.change w
      return 0
    | .error e => refuse "ln" what target e.describe

/-- Makes links. -/
def ln (args : List Bytes) : Work Nat :=
  withOptions "ln" ⟨"sfnvT", "t", [("symbolic", 's'), ("force", 'f'), ("no-dereference", 'n')]⟩ args 1
    fun o => do
  match o.operands with
  | [only] => linkTo o only (Path.child Path.here (baseName only))
  | [source, target] =>
    let direct := o.has 'T' || (o.has 'n' && match ← Work.entry? false target with
      | some (.link _) => true
      | _ => false)
    if !direct && (← Work.entry? true target) == some .directory then
      linkTo o source (Path.child target (baseName source))
    else linkTo o source target
  | operands =>
    match ← destination "ln" operands none with
    | .error status => return status
    | .ok (sources, d) =>
      sources.foldlM (fun status s => return max status (← linkTo o s (d.path s))) 0

/-! ## Listing -/

/-- The mark behind a name in a list. -/
def markOf (o : Options) : Entry → Bytes
  | .directory => if o.has 'F' || o.has 'p' then [47] else []
  | .link _ => if o.has 'F' then [64] else []
  | .file _ executable => if o.has 'F' && executable then [42] else []

/-- The names in a directory as they are listed. -/
def listing (o : Options) (w : World) (spot : Spot) : List Bytes :=
  let found := w.children spot
  let hidden (name : Bytes) : Bool := name.head? == some 46
  let shown := if o.has 'a' || o.has 'A' then found else found.filter fun e => !hidden e.1
  let names := shown.map fun e => e.1 ++ markOf o e.2
  let names := if o.has 'a' then Path.here :: Path.above :: names else names
  if o.has 'r' then names.reverse else names

/-- A directory with those below it, each in front of what it holds. -/
def withInner (w : World) (d : Bytes × Spot) : List (Bytes × Spot) :=
  d :: (w.below d.2).filterMap fun e =>
    if e.2 = .directory then
      (descend? d.2 e.1).map fun spot => (Path.descend d.1 e.1, spot)
    else none

/-- Lists directories. -/
def ls (args : List Bytes) : Work Nat :=
  withOptions "ls" ⟨"1aAdFprRUfClhtS", "", [("all", 'a'), ("almost-all", 'A'), ("directory", 'd')]⟩ args 2
    fun o => do
  let operands := if o.operands.isEmpty then [Path.here] else o.operands.mergeSort fun a b => a ≤ b
  let (files, directories, status) ← operands.foldlM (fun (files, directories, status) path => do
    match ← Work.locate (!o.has 'd') path with
    | .ok (.present spot) =>
      match (← get).world.entry? spot with
      | some .directory =>
        if o.has 'd' then return (files ++ [path], directories, status)
        else return (files, directories ++ [(path, spot)], status)
      | some e => return (files ++ [path ++ markOf o e], directories, status)
      | none => return (files, directories, status)
    | .ok (.absent ..) =>
      let _ ← refuse "ls" "cannot access" path OsError.notFound.describe
      return (files, directories, 2)
    | .error e =>
      let _ ← refuse "ls" "cannot access" path e.describe
      return (files, directories, 2))
        (([], [], 0) : List Bytes × List (Bytes × Spot) × Nat)
  say (Bytes.unlines files)
  let w := (← get).world
  let directories := if o.has 'R' then directories.flatMap fun d => withInner w d else directories
  let headed := operands.length > 1 || o.has 'R'
  let blocks := directories.map fun d =>
    (if headed then d.1 ++ [58, 10] else []) ++ Bytes.unlines (listing o w d.2)
  say ((if files.isEmpty || blocks.isEmpty then [] else [10]) ++ [10].intercalate blocks)
  return status

/-! ## Copying input -/

/-- Copies standard input to files and to standard output. -/
def tee (args : List Bytes) : Work Nat :=
  withOptions "tee" ⟨"aip", "", [("append", 'a')]⟩ args 1 fun o => do
  let access := if o.has 'a' then Access.append else .write
  let (streams, status) ← o.operands.foldlM (fun (streams, status) path => do
    match (← get).openPath (← read) access path with
    | .ok (n, s) =>
      set s
      return (streams ++ [n], status)
    | .error e =>
      complain ("tee: " ++ Utf8.display path ++ ": " ++ e.describe ++ "\n")
      return (streams, 1)) (([], 0) : List Nat × Nat)
  let bytes ← Work.input
  say bytes
  modify fun s => streams.foldl (fun s n => s.put n bytes) s
  return status

/-! ## Permissions -/

/-- Whether a mode makes a file executable, if it says anything about that. -/
def executableIn? (mode : Bytes) : Option (Option Bool) :=
  if !mode.isEmpty && mode.all (fun b => 48 ≤ b && b ≤ 55) then
    match mode.reverse with
    | _ :: _ :: owner :: _ => some (some ((owner - 48) % 2 == 1))
    | _ => some (some false)
  else
    let who := mode.takeWhile fun b => List.contains (Bytes.ofString "ugoa") b
    match mode.drop who.length with
    | sign :: what =>
      let known := what.all fun b => List.contains (Bytes.ofString "rwxXst") b
      let owner := who.isEmpty || List.contains who 117 || List.contains who 97
      if !known || !List.contains [43, 45, 61] sign then none
      else if !owner then some none
      else if List.contains what 120 then some (some (sign != 45))
      else if sign = 61 then some (some false)
      else some none
    | [] => none

/-- Changes the permissions of files. -/
def chmod (args : List Bytes) : Work Nat := do
  match args.filter fun a => a != Bytes.ofString "-R" with
  | [] => misuse "chmod" "missing operand"
  | [mode] => misuse "chmod" ("missing operand after " ++ quoted mode)
  | mode :: paths =>
    match (Bytes.splitBy (· == 44) mode).mapM executableIn? with
    | none => misuse "chmod" ("invalid mode: " ++ quoted mode)
    | some changes =>
      let executable? := changes.foldl (fun before c => c.or before) none
      forOperands "chmod" paths fun path => do
        match ← Work.locate true path with
        | .ok (.present spot) =>
          match (← get).world.entry? spot, executable? with
          | some (.file content _), some executable =>
            Work.change ((← get).world.set spot (.file content executable))
          | _, _ => pure ()
          return 0
        | .ok (.absent ..) => refuse "chmod" "cannot access" path OsError.notFound.describe
        | .error e => refuse "chmod" "cannot access" path e.describe

end SyscallGuard.Utility
