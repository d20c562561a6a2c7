import LibFtp.App.CommandParser

/-! The loop of the command-line program. It reads a line, carries out its command and prints
what went wrong; only the exit command, the end of the input and an error of the local files
end it. -/

namespace LibFtp

open Effect

/-- `boost::format`. The formats of the library and of the program hold no other item
than `%1%`. -/
def substitute (arg : Bytes) : Bytes → Bytes
  | 37 :: 49 :: 37 :: rest => arg ++ substitute arg rest
  | ch :: rest => ch :: substitute arg rest
  | [] => []

def format (fmt : String) (args : List Bytes) : Bytes :=
  match args with
  | [] => text fmt
  | arg :: _ => substitute arg (text fmt)

namespace CmdlineInterface

open CommandHandler

section Loop
variable (iequals : Bytes → Bytes → Bool) (message : ErrorCode → Bytes)

/-- `ftp_exception::what`; the texts of the error codes are the operating system's. -/
def ftpWhat (error : FtpException) : Bytes :=
  match error.ec with
  | none => format error.fmt error.args
  | some ec => format error.fmt error.args ++ text ": " ++ message ec

/-- What the stream prints of a C string, and the end of the line. -/
def printed (what : Bytes) : Bytes := what.takeWhile (· ≠ 0) ++ [lf]

def parseCommand (line : Bytes) : Action (Command × List Bytes) :=
  match CommandParser.parseCommand iequals line with
  | .ok parsed => pure parsed
  | .error error => Program.raise error

/-- The body of the loop. Tells whether the loop goes on. -/
def round : Action Bool := do
  let line ← readLine "ftp> "
  if line = [] then return true
  let (command, args) ← parseCommand iequals line
  handle command args
  return command ≠ .exit

/-- What the loop does with an exception. -/
def report (error : AppError) : Action Bool := do
  match error with
  | .cmdline fmt args => ask (.consoleWrite (printed (format fmt args)))
  | .ftp error => ask (.consoleWrite (printed (ftpWhat message error)))
  | .filesystem _ | .istreamFailure => Program.raise error
  return true

def rounds : Nat → Action Unit
  | 0 => Program.spin
  | fuel + 1 => do
    if ← Program.recover (round iequals) (report message) then rounds fuel

def run : Action Unit := Program.loop (rounds iequals message)

end Loop

end CmdlineInterface

end LibFtp
