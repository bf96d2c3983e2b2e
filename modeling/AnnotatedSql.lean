import AnnotatedSql.Config.Stored
import AnnotatedSql.Lexer.Session
import AnnotatedSql.Piece
import AnnotatedSql.Survey
import AnnotatedSql.Token.Dump
import AnnotatedSql.Proofs.Forms
import AnnotatedSql.Proofs.Cover
import AnnotatedSql.Proofs.LineTokens
import AnnotatedSql.Proofs.Leaves
import AnnotatedSql.Proofs.Provenance
import AnnotatedSql.Proofs.RawLine
import AnnotatedSql.Proofs.AnnotatedLine
import AnnotatedSql.Proofs.Json.Spelling
import AnnotatedSql.Proofs.Sessions
import AnnotatedSql.Proofs.Json.Wellformed
import AnnotatedSql.Proofs.StoredConfig
import AnnotatedSql.Proofs.Delimited
import AnnotatedSql.Proofs.Quotation
import AnnotatedSql.Proofs.Listing
import AnnotatedSql.Proofs.Json.Unambiguous
import AnnotatedSql.Proofs.Dump
import AnnotatedSql.Proofs.Relexing
import AnnotatedSql.Proofs.Agreement
import AnnotatedSql.Proofs.Splits
import AnnotatedSql.Proofs.Rereading
import AnnotatedSql.Proofs.SurveyRecords
import AnnotatedSql.Proofs.Enumeration
import AnnotatedSql.Proofs.LineEndings
import AnnotatedSql.Proofs.LineKinds
import AnnotatedSql.Proofs.Gathering
import AnnotatedSql.Proofs.Trails
