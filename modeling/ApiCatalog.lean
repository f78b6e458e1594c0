import ApiCatalog.Main
import ApiCatalog.Proofs.Merge
import ApiCatalog.Proofs.ImportDocuments
import ApiCatalog.Proofs.ImportVisits
import ApiCatalog.Proofs.ImportOutcomes
import ApiCatalog.Proofs.ImportFaults
import ApiCatalog.Proofs.ImportRequests
import ApiCatalog.Proofs.ImportRepeats
import ApiCatalog.Proofs.StoreRuns
import ApiCatalog.Proofs.SpecFaults
import ApiCatalog.Proofs.ReferenceDepth
import ApiCatalog.Proofs.LeftReferences
import ApiCatalog.Proofs.PointerIndexes
import ApiCatalog.Proofs.EscapedPointers
import ApiCatalog.Proofs.TagCategories
import ApiCatalog.Proofs.PropertyFields
import ApiCatalog.Proofs.FiledPaths
import ApiCatalog.Proofs.PrintedDocuments
import ApiCatalog.Proofs.Endpoints
import ApiCatalog.Proofs.DumpedDocuments
import ApiCatalog.Proofs.CategoryCounts
import ApiCatalog.Proofs.CategoryNumbers
import ApiCatalog.Proofs.MergedEndpoints
import ApiCatalog.Proofs.BlockNesting
import ApiCatalog.Proofs.CommentPlaces
import ApiCatalog.Proofs.CutDocuments
import ApiCatalog.Proofs.Layout
import ApiCatalog.Proofs.LineComments
import ApiCatalog.Proofs.SyntaxErrors
import ApiCatalog.Proofs.CanonicalSpellings
import ApiCatalog.Proofs.NumberTokens
import ApiCatalog.Proofs.SoundReaders
import ApiCatalog.Proofs.RequestFields
import ApiCatalog.Proofs.MirroredSchemas
import ApiCatalog.Proofs.ResponseFields
import ApiCatalog.Proofs.MockPayloads
import ApiCatalog.Proofs.NestedTypes
import ApiCatalog.Proofs.PayloadKinds
import ApiCatalog.Proofs.SettingsLayers
import ApiCatalog.Proofs.ConfigEntries
import ApiCatalog.Proofs.PlainTables
import ApiCatalog.Proofs.SettingsBounds
import ApiCatalog.Proofs.DiagnosticWords
