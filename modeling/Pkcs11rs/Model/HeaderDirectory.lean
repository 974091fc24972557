import Pkcs11rs.Model.TokenHeader

/-!
# Concurrent header updates on one token directory

The file-system steps of the header calls (`software_storage.rs:525-751`), as a step function
on the directory and the processes that work on it.  A process makes one call.

* A directory listing takes time: it may or may not return a file that is linked or removed
  meanwhile, and returns every file that is present throughout.
* Reading the file that the listing names fails if the file is gone.
* `hard_link` is atomic and fails if the name exists.
* `remove_old_headers` lists the directory again and removes one file after the other.

Any step can also fail for another reason (`fail`).  Files hold decoded headers; the temporary
file of a call has a name of its own and is invisible to listings of headers.
-/

set_option autoImplicit false

namespace Pkcs11rs.Model

/-- The header files of a token directory: generation in the name, and content. -/
abbrev HeaderFiles := List (ℕ × Header)

/-- The generations present. -/
def HeaderFiles.generations (files : HeaderFiles) : List ℕ := files.map Prod.fst

/-- `current_header_path` on the names that a listing returned. -/
def currentGeneration (names : List ℕ) : Option ℕ :=
  names.foldl (fun current generation =>
    match current with
    | none => some generation
    | some candidate => if generation > candidate then some generation else some candidate) none

/-- The header that a login would use now. -/
def currentHeader (files : HeaderFiles) : Option Header :=
  (currentGeneration files.generations).bind fun generation => List.lookup generation files

/-- Where a call is.  A read of the current header is for the login (`none`) or for the
replacement, with the keys of the login. -/
inductive HeaderPhase where
  /-- Listing the directory: the files present throughout and at some time. -/
  | listing (keys : Option (Bytes × Bytes)) (throughout sometime : List ℕ)
  /-- About to read the file of this generation. -/
  | opening (keys : Option (Bytes × Bytes)) (generation : ℕ)
  | authorized (keys : Bytes × Bytes)
  | prepared (header : Header)
  /-- The temporary file is written. -/
  | linking (header : Header)
  | linked (generation : ℕ)
  /-- Listing the directory in `remove_old_headers`. -/
  | cleaning (generation : ℕ) (throughout sometime : List ℕ)
  | removing (generation : ℕ) (remaining : List ℕ)
  | done (result : Except Rv Unit)

/-- A process and its call. -/
structure HeaderProcess where
  call : HeaderCall
  phase : HeaderPhase

/-- A successful link. -/
structure LinkRecord where
  process : ℕ
  call : HeaderCall
  header : Header
  deriving DecidableEq, Repr

/-- The directory, the processes and the links made so far. -/
structure HeaderSystem where
  files : HeaderFiles
  processes : ℕ → Option HeaderProcess
  log : List LinkRecord

/-- What a process does next. -/
inductive HeaderAction where
  | start (call : HeaderCall)
  /-- A listing returns. -/
  | list (names : List ℕ)
  | read
  | relist
  | write
  | link
  | clean
  | remove
  | finish
  /-- Any other failure of a file operation. -/
  | fail

/-- A file appears while others are listing. -/
def HeaderPhase.observeLink (generation : ℕ) : HeaderPhase → HeaderPhase
  | listing keys throughout sometime => listing keys throughout (generation :: sometime)
  | cleaning target throughout sometime => cleaning target throughout (generation :: sometime)
  | phase => phase

/-- A file disappears while others are listing. -/
def HeaderPhase.observeRemove (generation : ℕ) : HeaderPhase → HeaderPhase
  | listing keys throughout sometime =>
    listing keys (throughout.filter (· ≠ generation)) sometime
  | cleaning target throughout sometime =>
    cleaning target (throughout.filter (· ≠ generation)) sometime
  | phase => phase

namespace HeaderSystem

/-- The process moves to a phase. -/
def setPhase (s : HeaderSystem) (p : ℕ) (call : HeaderCall) (phase : HeaderPhase) : HeaderSystem :=
  { s with processes := Function.update s.processes p (some ⟨call, phase⟩) }

/-- The other processes see a change of the directory. -/
def observe (s : HeaderSystem) (f : HeaderPhase → HeaderPhase) : HeaderSystem :=
  { s with processes := fun q => (s.processes q).map fun proc => { proc with phase := f proc.phase } }

/-- A listing may return these names. -/
def listingReturns (throughout sometime names : List ℕ) : Bool :=
  throughout.all (· ∈ names) && names.all (· ∈ sometime)

def afterRead (crypto : HeaderCrypto) (store : TokenStore) (call : HeaderCall)
    (keys : Option (Bytes × Bytes)) (current : Option Header) : HeaderPhase :=
  match keys with
  | none =>
    match authorize crypto store current call with
    | .error error => .done (.error error)
    | .ok keys => .authorized keys
  | some keys =>
    match prepare crypto store keys current call with
    | .error error => .done (.error error)
    | .ok header => .prepared header

/-- The result of an I/O error (`CKR_FUNCTION_FAILED`). -/
def ioError : HeaderPhase := .done (.error .functionFailed)

/-- One step of a process that has a call. -/
def stepProcess (crypto : HeaderCrypto) (store : TokenStore) (s : HeaderSystem) (p : ℕ)
    (call : HeaderCall) (phase : HeaderPhase) : HeaderAction → Option HeaderSystem
  | .start _ => none
  | .list names =>
    match phase with
    | .listing keys throughout sometime =>
      if listingReturns throughout sometime names then
        match currentGeneration names with
        | none => some (s.setPhase p call (afterRead crypto store call keys none))
        | some generation => some (s.setPhase p call (.opening keys generation))
      else none
    | .cleaning generation throughout sometime =>
      if listingReturns throughout sometime names then
        some (s.setPhase p call (.removing generation (names.filter (· < generation))))
      else none
    | _ => none
  | .read =>
    match phase with
    | .opening keys generation =>
      match List.lookup generation s.files with
      | none => some (s.setPhase p call ioError)
      | some header =>
        if header.generation ≠ generation then
          some (s.setPhase p call (.done (.error .dataInvalid)))
        else some (s.setPhase p call (afterRead crypto store call keys (some header)))
    | _ => none
  | .relist =>
    match phase with
    | .authorized keys =>
      some (s.setPhase p call (.listing (some keys) s.files.generations s.files.generations))
    | _ => none
  | .write =>
    match phase with
    | .prepared header => some (s.setPhase p call (.linking header))
    | _ => none
  | .link =>
    match phase with
    | .linking header =>
      if header.generation ∈ s.files.generations then some (s.setPhase p call ioError)
      else
        let s' : HeaderSystem :=
          { s with
            files := (header.generation, header) :: s.files
            log := s.log ++ [⟨p, call, header⟩] }
        some ((s'.observe (·.observeLink header.generation)).setPhase p call
          (.linked header.generation))
    | _ => none
  | .clean =>
    match phase with
    | .linked generation =>
      some (s.setPhase p call (.cleaning generation s.files.generations s.files.generations))
    | _ => none
  | .remove =>
    match phase with
    | .removing generation (old :: remaining) =>
      if old ∈ s.files.generations then
        let s' := { s with files := s.files.filter (·.1 ≠ old) }
        some ((s'.observe (·.observeRemove old)).setPhase p call
          (.removing generation remaining))
      else some (s.setPhase p call ioError)
    | _ => none
  | .finish =>
    match phase with
    | .removing _ [] => some (s.setPhase p call (.done (.ok ())))
    | _ => none
  | .fail =>
    match phase with
    | .done _ => none
    | _ => some (s.setPhase p call ioError)

/-- One step: process `p` starts its call, or goes on with it. -/
def step (crypto : HeaderCrypto) (store : TokenStore) (s : HeaderSystem)
    (event : ℕ × HeaderAction) : Option HeaderSystem :=
  match s.processes event.1, event.2 with
  | none, .start call =>
    -- a call that logs in lists first for the login, the others for the replacement
    let keys := if call.logsIn then none else some ([], [])
    some (s.setPhase event.1 call
      (.listing keys s.files.generations s.files.generations))
  | none, _ => none
  | some proc, action => stepProcess crypto store s event.1 proc.call proc.phase action

end HeaderSystem

end Pkcs11rs.Model
