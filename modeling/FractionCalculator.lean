import FractionCalculator.Main
import FractionCalculator.Proofs.CommandLine.FileLines
import FractionCalculator.Proofs.Dialogue.Undecodable
import FractionCalculator.Proofs.Fraction.Equality
import FractionCalculator.Proofs.Session.Checked
import FractionCalculator.Proofs.Session.Continuation
import FractionCalculator.Proofs.Session.Guarded
import FractionCalculator.Proofs.Session.Independence
import FractionCalculator.Proofs.Session.Records
import FractionCalculator.Proofs.Session.Reordering
import FractionCalculator.Proofs.Session.Replay
import FractionCalculator.Proofs.Session.Substitution
import FractionCalculator.Proofs.Text.Splitting
import FractionCalculator.Proofs.Transcript.Account
import FractionCalculator.Session.Request
