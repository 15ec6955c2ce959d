import LineShell.Machine.World
/-!
# What a system answers

A step of a process is an answer to what it asks for, or its end. Some answers have to be waited for:
bytes that are not there yet, room in a pipe, the end of a child. `World.step` takes a step, unless it
has to be waited for.
-/

namespace LineShell

/-- What a file does under the programs of a machine. -/
abbrev Loader := Utility → Image → Program

namespace World

/-! ## Open files -/

/-- What opening something at a place leads to. -/
def channelAt (world : World) (process : Process) (place : Location) (access : Access) :
    Except Errno (OpenFile × FileTree) :=
  let opened := fun channel =>
    ({ channel, reads := access.reads, writes := access.writes, appends := access.appends } :
      OpenFile)
  match world.files.get? place with
  | none | some (.link _) => .error .noEntry
  | some (.directory _) =>
    if access.writes then .error .isDirectory else .ok (opened (.directory place), world.files)
  | some (.program _) =>
    if access.writes then .error .textBusy else .ok (opened (.file place), world.files)
  | some (.file _ executable) =>
    let files :=
      if access.empties then world.files.put place (.file [] executable) else world.files
    .ok (opened (.file place), files)
  | some (.device kind) =>
    match kind with
    | .null => .ok (opened .nothing, world.files)
    | .full => .ok (opened .noRoom, world.files)
    | .zero => .ok (opened .zeros, world.files)
    | .terminal => .error .noDevice
    | .descriptor number =>
      match world.openFile? process number with
      | some (_, file) => .ok (opened file.channel, world.files)
      | none => .error .noEntry

/-- Opens a file. -/
def openFile (world : World) (process : Process) (path : String) (access : Access) :
    Except Errno (OpenFile × FileTree) := do
  let found ←
    if access.creates then world.files.findNew process.dir path
    else world.files.find true process.dir path
  match found with
  | .place place =>
    if access.creates && access.fresh then .error .alreadyThere
    else world.channelAt process place access
  | .free directory name =>
    if access.creates then
      let place := directory ++ [name]
      let files := world.files.put place (.file [] false)
      let file : OpenFile :=
        { channel := .file place, reads := access.reads, writes := access.writes
          appends := access.appends }
      .ok (file, files)
    else .error .noEntry

/-- How much a pipe holds before those who write to it have to wait. -/
def pipeRoom : Nat := 65536

/-- What a file holds after bytes were written to it from a place on. -/
def overwritten (content bytes : Bytes) (offset : Nat) : Bytes :=
  content.take offset ++ List.replicate (offset - content.length) 0 ++ bytes
    ++ content.drop (offset + bytes.length)

/-- Changes what a pipe holds. -/
def withPipe (world : World) (number : Nat) (bytes : Bytes) : World :=
  { world with
    pipes := world.pipes.map fun entry => if entry.1 = number then (number, bytes) else entry }

/-- Writes bytes, unless that has to be waited for. -/
def write (world : World) (process : Process) (descriptor : Nat) (bytes : Bytes) :
    Option (Option Errno × World) :=
  match world.openFile? process descriptor with
  | none => some (some .badDescriptor, world)
  | some (number, file) =>
    if !file.writes then some (some .badDescriptor, world)
    else
      match file.channel with
      | .nothing | .zeros => some (none, world)
      | .noRoom => some (some .noSpace, world)
      | .out => some (none, { world with out := bytes :: world.out })
      | .err => some (none, { world with err := bytes :: world.err })
      | .directory _ => some (some .isDirectory, world)
      | .file place =>
        match world.files.get? place with
        | some (.file content executable) =>
          let offset := if file.appends then content.length else file.offset
          let files := world.files.put place (.file (overwritten content bytes offset) executable)
          let file := { file with offset := offset + bytes.length }
          some (none, { world with files }.withOpenFile number file)
        | _ => some (none, world)
      | .pipe pipe =>
        let held := (world.pipes.lookup pipe).getD []
        if world.anyOpen fun other => other.channel = .pipe pipe ∧ other.reads then
          if held.length < pipeRoom then some (none, world.withPipe pipe (held ++ bytes)) else none
        else some (some .brokenPipe, world.deliver process SystemSignal.brokenPipe)

/-- Reads at most so many bytes, unless that has to be waited for. -/
def read (world : World) (process : Process) (descriptor most : Nat) (patience : Patience) :
    Option (Except Errno Bytes × World) :=
  match world.openFile? process descriptor with
  | none => some (.error .badDescriptor, world)
  | some (number, file) =>
    if !file.reads then some (.error .badDescriptor, world)
    else
      match file.channel with
      | .nothing | .out | .err => some (.ok [], world)
      | .zeros | .noRoom => some (.ok (List.replicate most 0), world)
      | .directory _ => some (.error .isDirectory, world)
      | .file place =>
        match world.files.get? place with
        | some (.file content _) =>
          let bytes := (content.drop file.offset).take most
          let file := { file with offset := file.offset + bytes.length }
          some (.ok bytes, world.withOpenFile number file)
        | _ => some (.ok [], world)
      | .pipe pipe =>
        match (world.pipes.lookup pipe).getD [] with
        | [] =>
          if !world.anyOpen fun other => other.channel = .pipe pipe ∧ other.writes then
            some (.ok [], world)
          else if patience = .some ∧ !process.noted.isEmpty then some (.error .interrupted, world)
          else none
        | held => some (.ok (held.take most), world.withPipe pipe (held.drop most))

/-- Makes a pipe. -/
def makePipe (world : World) (process : Process) : (Nat × Nat) × World :=
  let pipe := world.nextNumber
  let source := process.freeNumber 0
  let target :=
    (process.withDescriptor source (some { file := 0 })).freeNumber 0
  let piped := { world with pipes := (pipe, []) :: world.pipes, nextNumber := pipe + 1 }
  ((source, target),
    (piped.openAt process.pid source { channel := .pipe pipe, reads := true } true).openAt
      process.pid target { channel := .pipe pipe, writes := true } true)

/-! ## Children -/

/-- Looks for a child that has ended, unless that has to be waited for. -/
def wait (world : World) (process : Process) (patience : Patience) : Option (Waited × World) :=
  let dead := world.ended.filter (·.parent = process.pid)
  match (dead.map (·.pid)).min? with
  | some first =>
    (dead.find? (·.pid = first)).map fun it =>
      (.ended it.pid it.change,
        { world with ended := world.ended.filter fun (other : Ended) => other.pid != first })
  | none =>
    if !world.processes.any (·.parent = process.pid) then some (.childless, world)
    else if patience = .none then some (.nothing, world)
    else if patience = .some ∧ !process.noted.isEmpty then some (.interrupted, world)
    else none

/-- Makes a process like another one. -/
def fork (world : World) (process : Process) (program : Program) : World :=
  let child := { process with
    pid := world.nextPid, parent := process.pid, program, noted := [], delayed := [] }
  { world with processes := world.processes ++ [child], nextPid := world.nextPid + 1 }

/-! ## Programs -/

/-- An argument must be shorter than this, in bytes. -/
def argumentLimit : Nat := 131072

/-- All arguments together must be shorter than this, in bytes. -/
def argumentsLimit : Nat := 2097152

/-- How often a script can name another one as its program. -/
def interpreterLimit : Nat := 5

/-- The program that the first line of a script names, and the argument it gives to it. -/
def interpreterOf (content : Bytes) : Option (String × List String) :=
  match (Octets.ofBytes content).toList with
  | '#' :: '!' :: rest =>
    let isBlank := fun c : Char => c = ' ' || c = '\t'
    let line := (rest.takeWhile (· != '\n')).dropWhile isBlank
    let name := line.takeWhile (!isBlank ·)
    let argument :=
      (((line.drop name.length).dropWhile isBlank).reverse.dropWhile isBlank).reverse
    some (String.ofList name, if argument.isEmpty then [] else [String.ofList argument])
  | _ => none

/-- Whether texts are too long to be handed to a program. Each takes up room for its end and for
where it is. -/
def tooLong (texts : List String) : Bool :=
  texts.any (argumentLimit ≤ ·.length)
    || argumentsLimit < texts.foldl (fun room text => room + text.length + 9) 0

/-- The program in a file, and the arguments it gets. -/
def programAt (world : World) (dir : Location) (environment : Environment) :
    Nat → String → List String → Except Errno (Utility × List String)
  | limit, path, args =>
    match world.files.locate dir path with
    | .error errno => .error errno
    | .ok place =>
      let texts := args ++ environment.map fun entry => entry.1 ++ "=" ++ entry.2
      match world.files.get? place with
      | some (.program utility) =>
        if tooLong texts then .error .argumentsTooLong else .ok (utility, args)
      | some (.file content true) =>
        if tooLong texts then .error .argumentsTooLong
        else
          match interpreterOf content, limit with
          | some (interpreter, argument), limit + 1 =>
            programAt world dir environment limit interpreter
              (interpreter :: argument ++ path :: args.drop 1)
          | some _, 0 => .error .tooManyLinks
          | none, _ => .error .unknownFormat
      | _ => .error .accessDenied

/-- Lets a process become the program in a file. -/
def become (load : Loader) (world : World) (process : Process) (path : String) (args : List String)
    (environment : Environment) : Except Errno World :=
  match world.programAt process.dir environment interpreterLimit path args with
  | .error errno => .error errno
  | .ok (utility, args) =>
    let handling := process.handling.filter (·.2 = .ignored)
    let image : Image :=
      { args, environment, pid := process.pid, parent := process.parent
        ignored := handling.map (·.1) }
    .ok (world.modify process.pid fun process =>
      { process with
        program := load utility image
        descriptors := process.descriptors.filter (·.2.isKept)
        handling, noted := [] })

/-! ## Answers -/

/-- What is known of a file. -/
def statusOf (world : World) (place : Location) : FileStatus :=
  match world.files.get? place with
  | some (.directory _) => { kind := .directory, place, size := 4096, executable := true }
  | some (.file content executable) =>
    { kind := .regular, place, size := content.length, executable }
  | some (.program _) => { kind := .regular, place, size := 4096, executable := true }
  | some (.link target) => { kind := .link, place, size := target.length, executable := true }
  | _ => { kind := .device, place, size := 0, executable := false }

/-- Answers what a process asks for, unless the answer has to be waited for. -/
def answer (world : World) (process : Process) :
    (demand : Demand) → Option (demand.Reply × World)
  | .noted => some (process.noted, world.modify process.pid fun process =>
      { process with noted := [] })
  | .write descriptor bytes => world.write process descriptor bytes
  | .read descriptor most patience => world.read process descriptor most patience
  | .openFile path access =>
    match world.openFile process path access with
    | .error errno => some (.error errno, world)
    | .ok (file, files) =>
      let number := process.freeNumber 0
      some (.ok number, { world with files }.openAt process.pid number file true)
  | .close descriptor => some ((), world.modify process.pid (·.withDescriptor descriptor none))
  | .duplicate source target =>
    match process.descriptors.lookup source with
    | none => some (some .badDescriptor, world)
    | some descriptor =>
      some (none, world.modify process.pid
        (·.withDescriptor target (some { descriptor with isKept := true })))
  | .setAside source =>
    match process.descriptors.lookup source with
    | none => some (.error .badDescriptor, world)
    | some descriptor =>
      let number := process.freeNumber 10
      some (.ok number, world.modify process.pid
        (·.withDescriptor number (some { descriptor with isKept := false })))
  | .pipe => some (world.makePipe process)
  | .changeDir path =>
    match world.files.locate process.dir path with
    | .error errno => some (some errno, world)
    | .ok place =>
      if (world.files.get? place).any FileTree.isDirectory then
        some (none, world.modify process.pid fun process => { process with dir := place })
      else some (some .notDirectory, world)
  | .tellDir => some (process.dir.path, world)
  | .names path => some (world.files.names process.dir path, world)
  | .inspect path follows =>
    match world.files.find follows process.dir path with
    | .error errno => some (.error errno, world)
    | .ok (.free _ _) => some (.error .noEntry, world)
    | .ok (.place place) => some (.ok (world.statusOf place), world)
  | .send target signal => some (world.send process target signal)
  | .raise signal => some ((), world.deliver process signal)
  | .handle signal handling =>
    some ((), world.modify process.pid fun process =>
      { process with
        handling := (signal, handling) :: process.handling.filter (·.1 != signal) })
  | .mask new? =>
    some (process.mask, world.modify process.pid fun process =>
      { process with mask := new?.getD process.mask })
  | .wait patience => world.wait process patience
  | .fork | .become _ _ _ => none

/-- Lets a process take a step, unless that has to be waited for. -/
def step (load : Loader) (world : World) (process : Process) : Option World :=
  match process.program with
  | .ended status => some (world.bury process (.exited (status % 256)))
  | .asks .fork next =>
    let forked := world.fork process (next none)
    some (forked.modify process.pid fun process =>
      { process with program := next (some world.nextPid) })
  | .asks (.become path args environment) next =>
    match world.become load process path args environment with
    | .ok world => some world
    | .error errno => some (world.modify process.pid fun process =>
        { process with program := next errno })
  | .asks demand next =>
    (world.answer process demand).map fun (reply, world) =>
      world.modify process.pid fun process => { process with program := next reply }

end World

end LineShell
