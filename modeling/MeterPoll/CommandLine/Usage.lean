import MeterPoll.CommandLine.Argument
import MeterPoll.CommandLine.Colour

/-!
# Usage

What the program says about its command line, when it is asked and when it does not understand it.
-/

namespace MeterPoll.CommandLine

/-- The name of the program. -/
def programName : String := "ht7017"

/-- How the program is used. -/
def usage : String :=
  "Polling driver for the HT7017 energy metering IC\n\n" ++
  "Usage: ht7017 [OPTIONS] <COMMAND>\n\n" ++
  "Commands:\n" ++
  "  run       Poll a meter on a serial port until Ctrl+C\n" ++
  "  simulate  Run the driver against the simulated meter and print its status\n" ++
  "  frame     Print the request frame for a register, and the response frame when data bytes " ++
    "are given\n" ++
  "  help      Print this message or the help of the given subcommand(s)\n\n" ++
  "Options:\n" ++
  "      --config <CONFIG>  Configuration file [default: config/ht7017.toml]\n" ++
  "  -h, --help             Print help\n"

/-- What comes before the option that asks for help. -/
def helpHint : String := "\n\nFor more information, try '"

/-- The short form of the usage with what comes behind it. -/
def usageHint : List Piece :=
  [.neutral "\n\n", ⟨.heading, "Usage:"⟩, .neutral " ", ⟨.literal, programName⟩,
    .neutral (" [OPTIONS] <COMMAND>" ++ helpHint)]

/-- What is wrong with the arguments, up to the option that asks for help. -/
def ArgumentFault.complaint : ArgumentFault → List Piece
  | noArguments => .neutral "no arguments" :: usageHint
  | noCommand =>
    [.neutral "'", ⟨.wrong, programName⟩,
      .neutral "' requires a subcommand but one was not provided"] ++ usageHint
  | unknownCommand word =>
    [.neutral "unrecognized subcommand '", ⟨.wrong, word⟩, .neutral "'"] ++ usageHint
  | unexpected word =>
    [.neutral "unexpected argument '", ⟨.wrong, word⟩, .neutral "' found"] ++ usageHint
  | missingValue title =>
    [.neutral "a value is required for '", ⟨.wrong, title⟩,
      .neutral ("' but none was supplied" ++ helpHint)]
  | repeated title =>
    [.neutral "the argument '", ⟨.wrong, title⟩, .neutral "' cannot be used multiple times"] ++
      usageHint
  | tooManyValues value title =>
    [.neutral "unexpected value '", ⟨.wrong, value⟩, .neutral "' for '", ⟨.literal, title⟩,
      .neutral "' found; no more were expected"] ++ usageHint
  | missingPlace title =>
    [.neutral "the following required arguments were not provided:\n  ", ⟨.right, title⟩] ++
      usageHint
  | invalidValue value title reason =>
    [.neutral "invalid value '", ⟨.wrong, value⟩, .neutral "' for '", ⟨.literal, title⟩,
      .neutral ("': " ++ reason ++ helpHint)]

/-- What the program writes when the arguments are wrong: its usage if there are none. -/
def ArgumentFault.message : ArgumentFault → List Piece
  | noArguments => [.neutral usage]
  | fault =>
    [⟨.alarm, "error:"⟩, .neutral " "] ++ fault.complaint ++
      [⟨.literal, helpTitle⟩, .neutral "'.\n"]

end MeterPoll.CommandLine
