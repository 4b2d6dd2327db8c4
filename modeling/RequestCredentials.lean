import RequestCredentials.Gate
import RequestCredentials.Catalogue
import RequestCredentials.Proofs.Encoding.Encodable
import RequestCredentials.Proofs.Encoding.RoundTrip
import RequestCredentials.Proofs.Json.Documents
import RequestCredentials.Proofs.Format.PairsCanonical
import RequestCredentials.Proofs.Format.PairsBounds
import RequestCredentials.Proofs.Format.Wire.Envelope
import RequestCredentials.Proofs.Format.Wire.SortedMaps
import RequestCredentials.Proofs.Declaration.Schema
import RequestCredentials.Proofs.Declaration.Accepted
import RequestCredentials.Proofs.Declaration.Positions
import RequestCredentials.Proofs.Declaration.Messages
import RequestCredentials.Proofs.Request.HeaderNames
import RequestCredentials.Proofs.Evaluation.Success
import RequestCredentials.Proofs.Evaluation.Base64Text
import RequestCredentials.Proofs.Evaluation.Undecodable
import RequestCredentials.Proofs.Evaluation.Alike
import RequestCredentials.Proofs.Evaluation.Blame
import RequestCredentials.Proofs.Evaluation.Commitment
import RequestCredentials.Proofs.Shapes.Trace
import RequestCredentials.Proofs.Shapes.Soundness
import RequestCredentials.Proofs.Shapes.Dismissal
import RequestCredentials.Proofs.Shapes.WiderSeeds
import RequestCredentials.Proofs.Search.AcceptedStrings
import RequestCredentials.Proofs.Search.Breakdown
import RequestCredentials.Proofs.Search.Probes
import RequestCredentials.Proofs.Search.Survey
import RequestCredentials.Proofs.Search.Deletion
import RequestCredentials.Proofs.Search.PropertyPaths
import RequestCredentials.Proofs.Search.Seeds
import RequestCredentials.Proofs.Gate.Enforcement
import RequestCredentials.Proofs.Gate.FailedLoads
import RequestCredentials.Proofs.Gate.Standing
import RequestCredentials.Proofs.Gate.Verbosity
import RequestCredentials.Proofs.Gate.Repetition
import RequestCredentials.Proofs.Catalogue.Loads
