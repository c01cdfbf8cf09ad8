/-
  File:      OrangeFtpd/Filesystem.lean
  Subject:   What the file-system calls of the server answer.

  The answers of the operating system are inputs of the model: a `stat(2)` can
  find anything or fail with any error, and two calls on one path need not
  agree (other processes run in between). The `std::filesystem` functions are
  written over these answers. The overloads used by the server take no
  `error_code`: where the answer is an error they throw.
-/
import OrangeFtpd.Text

namespace OrangeFtpd

/-- `errno`. -/
inductive Errno where
  | noent | notdir | acces | isdir | exist | nospc | loop | nametoolong | io | inval | mfile
  | notsup | other (n : Nat)
  deriving DecidableEq, Repr

/-- `fs::file_type`, without `none` (an error is an error here). -/
inductive FileType where
  | notFound | regular | directory | symlink | block | character | fifo | socket | unknown
  deriving DecidableEq, Repr

/-- What a successful `stat(2)` says. -/
structure FileStatus where
  type : FileType
  /-- The permission bits. -/
  perms : Nat
  size : UInt64
  deriving DecidableEq, Repr

/-- The answer of one `stat(2)`. -/
abbrev StatResult := Except Errno FileStatus

/-- The errors that mean "no such file". -/
def isNotFoundErrno (e : Errno) : Bool := e == .noent || e == .notdir

/-- `fs::status(p)`: throws on every error but "not found". -/
def fsStatus : StatResult → Except Errno FileType
  | .ok st => .ok st.type
  | .error e => if isNotFoundErrno e then .ok .notFound else .error e

/-- `fs::status(p).permissions()`: `perms::unknown` where there is no file. -/
def fsPermissions : StatResult → Except Errno Nat
  | .ok st => .ok st.perms
  | .error e => if isNotFoundErrno e then .ok 0xFFFF else .error e

/-- `fs::exists(p)`. -/
def fsExists (r : StatResult) : Except Errno Bool := (fsStatus r).map (· != .notFound)

/-- `fs::is_directory(p)`. -/
def fsIsDirectory (r : StatResult) : Except Errno Bool := (fsStatus r).map (· == .directory)

/-- `fs::is_regular_file(p)`. -/
def fsIsRegularFile (r : StatResult) : Except Errno Bool := (fsStatus r).map (· == .regular)

/-- `fs::file_size(p)`: throws on every error, and where `p` is not a regular
    file. -/
def fsFileSize : StatResult → Except Errno UInt64
  | .ok st =>
    if st.type = .regular then .ok st.size
    else if st.type = .directory then .error .isdir
    else .error .notsup
  | .error e => .error e

/-- The answer of `fs::create_directory(p)`: made, there already, or an error
    (which is thrown). -/
inductive MkdirResult where
  | created | alreadyThere | failed (e : Errno)
  deriving DecidableEq, Repr

/-- The file that an open descriptor refers to (two paths can name one file). -/
abbrev FileId := Nat

/-- The answer of `::open`: a file descriptor and the file it refers to. -/
abbrev OpenResult := Except Errno (Nat × FileId)

/-! ## Directories -/

/-- Broken-down time, as far as `LIST` prints it. -/
structure Tm where
  mon : Fin 12
  mday : Nat
  hour : Nat
  min : Nat
  deriving DecidableEq, Repr

/-- One entry of a directory and the answers to the calls made on it: `stat k` is
    the `k`th status query. -/
structure DirEntry where
  name : Text
  stat : Nat → StatResult
  hardLinkCount : Except Errno Nat
  localTime : Tm
  gmTime : Tm

/-- What iterating a directory yields: entries, then the end or an error (an
    error before the first entry is one of opening the directory). -/
structure DirListing where
  entries : List DirEntry
  failed : Option Errno

end OrangeFtpd
