import RegexStudio.Main
import RegexStudio.Output.Decode
import RegexStudio.Proofs.CacheAccounting
import RegexStudio.Proofs.CacheTransparency
import RegexStudio.Proofs.Replacement
import RegexStudio.Proofs.LinearExploration
import RegexStudio.Proofs.TemplateGrammar
import RegexStudio.Proofs.LinearMeaning
import RegexStudio.Proofs.LinearMatches
import RegexStudio.Proofs.PatternCursor
import RegexStudio.Proofs.OutlineSpans
import RegexStudio.Proofs.ListingOrder
import RegexStudio.Proofs.MatchStart
import RegexStudio.Proofs.Members
import RegexStudio.Proofs.StoreHistory
import RegexStudio.Proofs.Precedence
import RegexStudio.Proofs.EngineChoice
import RegexStudio.Proofs.OutlineGroups
import RegexStudio.Proofs.UpdateRouting
import RegexStudio.Proofs.SessionFrames
import RegexStudio.Proofs.OutputReread
import RegexStudio.Proofs.TemplatePrinting
import RegexStudio.Proofs.TemplateReferences
import RegexStudio.Proofs.OutlineShape
import RegexStudio.Proofs.FaultPlaces
import RegexStudio.Proofs.Diagnosis
import RegexStudio.Proofs.TemplateOffsets
import RegexStudio.Proofs.TemplateRespelling
import RegexStudio.Proofs.EvalExit
