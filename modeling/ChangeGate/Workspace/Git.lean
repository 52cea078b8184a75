/-! # What a version control program answers

The program is known by its answers alone: what its n-th call prints and how it exits. -/

namespace ChangeGate.Git

/-- The answer to a call. -/
structure Reply where
  out : List UInt8 := []
  err : List UInt8 := []
  code : Int := 0
  deriving DecidableEq, Repr, Inhabited

/-- The answers to all calls in turn, if there is a program at all. -/
abbrev Program := Option (Nat → Reply)

/-- Why a call gives no output. -/
inductive Trouble
  | absent
  | exited (complaint : String)
  deriving DecidableEq, Repr

/-- The wording of a call that gives no output. -/
def Trouble.message (t : Trouble) (arguments : List String) : String :=
  let call := "Command failed: " ++ " ".intercalate ("git" :: arguments) ++ "\n"
  match t with
  | .absent => call ++ "[Errno 2] No such file or directory: 'git'"
  | .exited complaint => call ++ "stderr: " ++ complaint

end ChangeGate.Git
