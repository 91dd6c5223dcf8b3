import LineService.Shell.Client
import LineService.Shell.Server

/-!
# The command line

`serve` runs the server, `send` the client, and `try` the trials.
-/

/-- Runs the program that the first argument names. -/
def main : List String → IO UInt32
  | "serve" :: arguments => LineService.Shell.runServer arguments
  | "send" :: arguments => LineService.Shell.runClient arguments
  | "try" :: arguments => LineService.Shell.runTrial arguments
  | _ => do
    IO.eprintln "Pass serve, send or try, followed by the arguments of that program"
    return 2
